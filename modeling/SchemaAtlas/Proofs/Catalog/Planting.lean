import SchemaAtlas.Catalog.Survey
import SchemaAtlas.Proofs.Atlas.Extension
import SchemaAtlas.Proofs.Failure.Keeping

/-!
# Planting nodes

A new node is filled field by field. Its fields are set in the node alone, and the survey is followed as one
in which the node was planted with the fields it has so far.
-/

namespace SchemaAtlas

/-- A node with a field set, where an atlas allows it. -/
def Node.assign (node : Node) (field : String) (given : Entry) : Except Failure Node :=
  if node.frozen then .error (Atlas.cannotSet node field)
  else if Atlas.setsAgain node field then .error (Atlas.alreadySet node field)
  else node.set field given

/-- A column of an index takes every sort order. -/
theorem Node.assign_orderType (name : Option String) (position : Option Int) (old order : SortOrder)
    (parent : Option NodeId) :
    assign { name, content := .indexColumn position old, parent } "order_type" (.value (.text order.text)) =
      .ok { name, content := .indexColumn position order, parent } := by
  cases order <;> rfl

section

variable {α : Type} {node : Node} {field : String} {given : Entry} {reading : Reading α} {make : α → Content}
  {v : Value}

/-- A field of the content of a node is set to what its reader makes of the value. -/
theorem Node.assign_read {a : α} (hfrozen : node.frozen = false) (hagain : Atlas.setsAgain node field = false)
    (htold : node.isTold field = false) (hname : (field == "name") = false)
    (hset : node.content.set? field given = some (reading.map make)) (h : reading = .ok a) :
    node.assign field given = .ok { node with content := make a } := by
  subst h
  simp only [assign, hfrozen, hagain, Node.set, htold, hname, hset, Bool.false_eq_true, if_false, Except.map]

/-- A value that the reader refuses is refused for the field. -/
theorem Node.assign_refused {kind : IssueKind} (hfrozen : node.frozen = false)
    (hagain : Atlas.setsAgain node field = false) (htold : node.isTold field = false)
    (hname : (field == "name") = false) (hset : node.content.set? field given = some (reading.map make))
    (h : reading = .error kind) : node.assign field given = .error (.refused [⟨[field], kind⟩]) := by
  subst h
  simp only [assign, hfrozen, hagain, Node.set, htold, hname, hset, Bool.false_eq_true, if_false, Except.map]

/-- The name of a node is set to what its reader makes of the value, or refused. -/
theorem Node.assign_name (hfrozen : node.frozen = false) :
    node.assign "name" (.value v) = match Field.optional Field.text v with
      | .ok name => .ok { node with name }
      | .error kind => .error (.refused [⟨["name"], kind⟩]) := by
  have hagain : Atlas.setsAgain node "name" = false := rfl
  have htold : node.isTold "name" = false := by simp [Node.isTold]
  simp only [assign, hfrozen, hagain, Node.set, htold, Bool.false_eq_true, if_false, beq_self_eq_true, if_true]
  rfl

end

/-- Setting a field of a node in an atlas sets it in the node. -/
theorem Atlas.assign_eq {atlas : Atlas} {id : NodeId} {node : Node} (h : atlas.node? id = some node)
    (field : String) (given : Entry) :
    atlas.assign id field given = (node.assign field given).map fun next => atlas.update id fun _ => next := by
  simp only [Atlas.assign, Atlas.node, h, Node.assign, bind, Except.bind]
  split
  · rfl
  · split <;> rfl

/-- A node that is set to what it is leaves the atlas as it is. -/
theorem Atlas.update_self {atlas : Atlas} {id : NodeId} {node : Node} (h : atlas.node? id = some node) :
    (atlas.update id fun _ => node) = atlas := by
  refine ext_node? fun other => ?_
  rw [node?_update]
  split
  · rename_i hid
    rw [← hid, h]
    rfl
  · rfl

namespace Survey

variable {Notes : Type} {survey : Survey Notes} {parent : NodeId}

/-- A child that is added is planted as a new node of its kind. -/
theorem add_apply {node : Node} {kind : NodeKind} (hnode : survey.atlas.node? parent = some node)
    (hkind : node.kind.collections.any (·.1 == kind) = true) (hfrozen : node.frozen = false) :
    add parent kind survey = (.ok survey.atlas.nodes.size,
      { survey with atlas := survey.atlas.plant parent kind { content := .new kind, parent := some parent } }) := by
  have hadd : survey.atlas.add parent kind = .ok (survey.atlas.attach parent kind) :=
    (Atlas.add_eq_ok_iff survey.atlas parent kind _).mpr ⟨node, hnode, hkind, hfrozen, rfl⟩
  rw [add, Keeping.bind_of_ok (Keeping.get_apply _), Keeping.bind_apply, Keeping.settle_apply, hadd,
    ← Atlas.attach_eq_plant survey.atlas kind (Atlas.lt_of_node? hnode)]
  rfl

end Survey

end SchemaAtlas
