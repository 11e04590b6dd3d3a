import SchemaAtlas.Value.Basic

/-!
# Column types by name

The column types that are known by name: those that every vendor shares, and those that a vendor has of
its own. Each has the module and the name of its type, the name it is visited under, the families it
descends from and the type of its values, unless no instance of it can be made without arguments. Listings
and declarations refer to them where they give the class of a vendor type or of a column; nothing else
depends on which there are.
-/

namespace SchemaAtlas.ColumnTypes

/-- Column types by name. -/
abbrev Table := List (String × SqlType)

namespace Kind

/-- The type of flags. -/
def flag : Option TypeName := some ⟨"builtins", "bool"⟩

/-- The type of integers. -/
def integer : Option TypeName := some ⟨"builtins", "int"⟩

/-- The type of doubles. -/
def float : Option TypeName := some ⟨"builtins", "float"⟩

/-- The type of texts. -/
def text : Option TypeName := some ⟨"builtins", "str"⟩

/-- The type of bytes. -/
def bytes : Option TypeName := some ⟨"builtins", "bytes"⟩

/-- The type of values of any kind. -/
def anything : Option TypeName := some ⟨"builtins", "object"⟩

/-- The type of decimal numbers. -/
def decimal : Option TypeName := some ⟨"decimal", "Decimal"⟩

/-- The type of points in time. -/
def timestamp : Option TypeName := some ⟨"datetime", "datetime"⟩

/-- The type of days. -/
def day : Option TypeName := some ⟨"datetime", "date"⟩

/-- The type of times of day. -/
def timeOfDay : Option TypeName := some ⟨"datetime", "time"⟩

/-- The type of spans of time. -/
def span : Option TypeName := some ⟨"datetime", "timedelta"⟩

/-- The type of 128-bit identifiers. -/
def identifier : Option TypeName := some ⟨"uuid", "UUID"⟩

end Kind

/-- The failure of making an instance that needs arguments. -/
def needsArguments : Failure :=
  .fault .wrongType [.text "arguments are missing"]

/-- A named column type. -/
def entry (key home path visited : String) (families : List TypeFamily) (values : Option TypeName) :
    String × SqlType :=
  (key, .mk ⟨home, path⟩ visited families
    (match values with | some t => .ok (some t) | none => .error needsArguments))

open Kind in
/-- The column types that every vendor shares. -/
def general : Table :=
  [entry "ARRAY" "sqltypes" "ARRAY" "ARRAY" [] none,
   entry "BIGINT" "sqltypes" "BIGINT" "BIGINT" [.bigInteger, .integer] integer,
   entry "BINARY" "sqltypes" "BINARY" "BINARY" [.binary] bytes,
   entry "BLOB" "sqltypes" "BLOB" "BLOB" [.largeBinary] bytes,
   entry "BOOLEAN" "sqltypes" "BOOLEAN" "BOOLEAN" [.boolean] flag,
   entry "BigInteger" "sqltypes" "BigInteger" "big_integer" [.bigInteger, .integer] integer,
   entry "Boolean" "sqltypes" "Boolean" "boolean" [.boolean] flag,
   entry "CHAR" "sqltypes" "CHAR" "CHAR" [.string] text,
   entry "CLOB" "sqltypes" "CLOB" "CLOB" [.text, .string] text,
   entry "DATE" "sqltypes" "DATE" "DATE" [.date] day,
   entry "DATETIME" "sqltypes" "DATETIME" "DATETIME" [.dateTime] timestamp,
   entry "DECIMAL" "sqltypes" "DECIMAL" "DECIMAL" [.numeric] decimal,
   entry "DOUBLE" "sqltypes" "DOUBLE" "DOUBLE" [.double, .float] float,
   entry "DOUBLE_PRECISION" "sqltypes" "DOUBLE_PRECISION" "DOUBLE_PRECISION" [.double, .float] float,
   entry "Date" "sqltypes" "Date" "date" [.date] day,
   entry "DateTime" "sqltypes" "DateTime" "datetime" [.dateTime] timestamp,
   entry "Double" "sqltypes" "Double" "double" [.double, .float] float,
   entry "Enum" "sqltypes" "Enum" "enum" [.string] text,
   entry "FLOAT" "sqltypes" "FLOAT" "FLOAT" [.float] float,
   entry "Float" "sqltypes" "Float" "float" [.float] float,
   entry "INT" "sqltypes" "INTEGER" "INTEGER" [.integer] integer,
   entry "INTEGER" "sqltypes" "INTEGER" "INTEGER" [.integer] integer,
   entry "Integer" "sqltypes" "Integer" "integer" [.integer] integer,
   entry "Interval" "sqltypes" "Interval" "type_decorator" [] span,
   entry "JSON" "sqltypes" "JSON" "JSON" [] anything,
   entry "LargeBinary" "sqltypes" "LargeBinary" "large_binary" [.largeBinary] bytes,
   entry "MatchType" "sqltypes" "MatchType" "boolean" [.boolean] flag,
   entry "NCHAR" "sqltypes" "NCHAR" "NCHAR" [.string] text,
   entry "NUMERIC" "sqltypes" "NUMERIC" "NUMERIC" [.numeric] decimal,
   entry "NVARCHAR" "sqltypes" "NVARCHAR" "NVARCHAR" [.string] text,
   entry "NullType" "sqltypes" "NullType" "null" [] anything,
   entry "Numeric" "sqltypes" "Numeric" "numeric" [.numeric] decimal,
   entry "PickleType" "sqltypes" "PickleType" "type_decorator" [] anything,
   entry "REAL" "sqltypes" "REAL" "REAL" [.float] float,
   entry "SMALLINT" "sqltypes" "SMALLINT" "SMALLINT" [.smallInteger, .integer] integer,
   entry "SmallInteger" "sqltypes" "SmallInteger" "small_integer" [.smallInteger, .integer] integer,
   entry "String" "sqltypes" "String" "string" [.string] text,
   entry "TEXT" "sqltypes" "TEXT" "TEXT" [.text, .string] text,
   entry "TIME" "sqltypes" "TIME" "TIME" [.time] timeOfDay,
   entry "TIMESTAMP" "sqltypes" "TIMESTAMP" "TIMESTAMP" [.dateTime] timestamp,
   entry "Text" "sqltypes" "Text" "text" [.text, .string] text,
   entry "Time" "sqltypes" "Time" "time" [.time] timeOfDay,
   entry "TupleType" "sqltypes" "TupleType" "TupleType" [] anything,
   entry "UUID" "sqltypes" "UUID" "UUID" [] identifier,
   entry "Unicode" "sqltypes" "Unicode" "unicode" [.string] text,
   entry "UnicodeText" "sqltypes" "UnicodeText" "unicode_text" [.text, .string] text,
   entry "Uuid" "sqltypes" "Uuid" "uuid" [] identifier,
   entry "VARBINARY" "sqltypes" "VARBINARY" "VARBINARY" [.varBinary] bytes,
   entry "VARCHAR" "sqltypes" "VARCHAR" "VARCHAR" [.string] text]

open Kind in
/-- Column types of MySQL. -/
def mysql : Table :=
  [entry "mysql.bit" "mysql.types" "BIT" "BIT" [] anything,
   entry "mysql.double" "mysql.types" "DOUBLE" "DOUBLE" [.double, .float] decimal,
   entry "mysql.enum" "mysql.enumerated" "ENUM" "ENUM" [.string] text,
   entry "mysql.longblob" "mysql.types" "LONGBLOB" "LONGBLOB" [] bytes,
   entry "mysql.longtext" "mysql.types" "LONGTEXT" "LONGTEXT" [.string] text,
   entry "mysql.mediumint" "mysql.types" "MEDIUMINT" "MEDIUMINT" [.integer] integer,
   entry "mysql.set" "mysql.enumerated" "SET" "SET" [.string] text,
   entry "mysql.timestamp" "mysql.types" "TIMESTAMP" "TIMESTAMP" [.dateTime] timestamp,
   entry "mysql.tinyint" "mysql.types" "TINYINT" "TINYINT" [.integer] integer,
   entry "mysql.varbinary" "sqltypes" "VARBINARY" "VARBINARY" [.varBinary] bytes,
   entry "mysql.year" "mysql.types" "YEAR" "YEAR" [] anything]

open Kind in
/-- Column types of Oracle. -/
def oracle : Table :=
  [entry "oracle.BFILE" "oracle.types" "BFILE" "BFILE" [.largeBinary] bytes,
   entry "oracle.BINARY_DOUBLE" "oracle.types" "BINARY_DOUBLE" "BINARY_DOUBLE" [.double, .float] float,
   entry "oracle.BINARY_FLOAT" "oracle.types" "BINARY_FLOAT" "BINARY_FLOAT" [.float] float,
   entry "oracle.DATE" "oracle.types" "DATE" "DATE" [.dateTime] timestamp,
   entry "oracle.INTERVAL DAY TO SECOND" "oracle.types" "INTERVAL" "INTERVAL" [] span,
   entry "oracle.LONG" "oracle.types" "LONG" "LONG" [.text, .string] text,
   entry "oracle.NUMBER" "oracle.types" "NUMBER" "NUMBER" [.integer, .numeric] float,
   entry "oracle.RAW" "oracle.types" "RAW" "RAW" [] bytes,
   entry "oracle.ROWID" "oracle.types" "ROWID" "ROWID" [] anything,
   entry "oracle.TIMESTAMP" "oracle.types" "TIMESTAMP" "TIMESTAMP" [.dateTime] timestamp,
   entry "oracle.VARCHAR2" "sqltypes" "VARCHAR" "VARCHAR" [.string] text]

open Kind in
/-- Column types of PostgreSQL. -/
def postgresql : Table :=
  [entry "postgresql._array" "postgresql.array" "ARRAY" "ARRAY" [] none,
   entry "postgresql.bytea" "postgresql.types" "BYTEA" "BYTEA" [.largeBinary] bytes,
   entry "postgresql.character varying" "sqltypes" "VARCHAR" "VARCHAR" [.string] text,
   entry "postgresql.citext" "postgresql.types" "CITEXT" "CITEXT" [.text, .string] text,
   entry "postgresql.hstore" "postgresql.hstore" "HSTORE" "HSTORE" [] anything,
   entry "postgresql.inet" "postgresql.types" "INET" "INET" [] anything,
   entry "postgresql.int4range" "postgresql.ranges" "INT4RANGE" "INT4RANGE" [] anything,
   entry "postgresql.interval" "postgresql.types" "INTERVAL" "INTERVAL" [] span,
   entry "postgresql.jsonb" "postgresql.json" "JSONB" "JSONB" [] anything,
   entry "postgresql.money" "postgresql.types" "MONEY" "MONEY" [] anything,
   entry "postgresql.name" "sqltypes" "String" "string" [.string] text,
   entry "postgresql.time" "postgresql.types" "TIME" "TIME" [.time] timeOfDay,
   entry "postgresql.timestamp" "postgresql.types" "TIMESTAMP" "TIMESTAMP" [.dateTime] timestamp,
   entry "postgresql.uuid" "sqltypes" "UUID" "UUID" [] identifier]

open Kind in
/-- Column types of SQLite. -/
def sqlite : Table :=
  [entry "sqlite.DATE" "sqltypes" "DATE" "DATE" [.date] day,
   entry "sqlite.DATETIME" "sqltypes" "DATETIME" "DATETIME" [.dateTime] timestamp,
   entry "sqlite.DOUBLE" "sqltypes" "DOUBLE" "DOUBLE" [.double, .float] float,
   entry "sqlite.JSON" "sqlite.json" "JSON" "JSON" [] anything,
   entry "sqlite.TIME" "sqltypes" "TIME" "TIME" [.time] timeOfDay]

/-- The column types that are known by name. -/
def all : Table :=
  general ++ mysql ++ oracle ++ postgresql ++ sqlite

/-- The column type of a name. -/
def find? (name : String) : Option SqlType :=
  all.lookup name

/-- Families by name. -/
def families : List (String × TypeFamily) :=
  [("BigInteger", .bigInteger), ("SmallInteger", .smallInteger), ("Integer", .integer),
   ("Boolean", .boolean), ("Double", .double), ("Float", .float), ("Numeric", .numeric), ("Text", .text),
   ("String", .string), ("DateTime", .dateTime), ("Date", .date), ("Time", .time),
   ("LargeBinary", .largeBinary), ("VARBINARY", .varBinary), ("BINARY", .binary)]

end SchemaAtlas.ColumnTypes
