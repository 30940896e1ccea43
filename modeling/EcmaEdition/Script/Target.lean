import EcmaEdition.Tree.Node

/-!
# Literals that turn out to be targets

An object or array literal may turn out to be what an assignment, a parameter list or a loop assigns
to, which shows only behind it. It is read as a literal first, in which a shorthand member may have
a default value, and becomes a pattern when it has to be one. A literal that stays one may not have
such a member.
-/

set_option autoImplicit false

namespace EcmaEdition.Script

/-- A node as one of another kind. -/
def asKind (kind : String) (label : Label) (children : List Node) : Node :=
  ⟨{ label with kind }, children⟩

mutual

/-- Whether a literal can stay one: nowhere in it does a shorthand member have a default value. -/
def isSettled : Node → Bool
  | ⟨label, children⟩ =>
    match label.kind with
    | "object_assignment_pattern" => false
    | "object" | "array" | "pair" | "spread_element" => areSettled children
    | _ => true

/-- Whether all of some literals can stay what they are. -/
def areSettled : List Node → Bool
  | [] => true
  | node :: rest => isSettled node && areSettled rest

end

mutual

/-- The target that an expression is: a name, a property, or a literal of targets. -/
def asTarget? : Node → Option Node
  | ⟨label, children⟩ =>
    match label.kind with
    | "identifier" | "undefined" | "member_expression" | "subscript_expression" |
      "object_pattern" | "array_pattern" => some ⟨label, children⟩
    | "array" => (asElements? children).map (asKind "array_pattern" label)
    | "object" => (asElements? children).map (asKind "object_pattern" label)
    | _ => none

/-- The part of a pattern that a part of a literal is. Punctuation and comments stay. -/
def asElement? : Node → Option Node
  | ⟨label, children⟩ =>
    if !label.named then some ⟨label, children⟩
    else
      match label.kind with
      | "identifier" | "undefined" | "member_expression" | "subscript_expression" |
        "object_pattern" | "array_pattern" | "comment" | "html_comment" |
        "object_assignment_pattern" => some ⟨label, children⟩
      | "array" => (asElements? children).map (asKind "array_pattern" label)
      | "object" => (asElements? children).map (asKind "object_pattern" label)
      | "shorthand_property_identifier" =>
        some (asKind "shorthand_property_identifier_pattern" label children)
      | "assignment_expression" =>
        (asPart? "left" false children).map (asKind "assignment_pattern" label)
      | "pair" => (asPart? "value" true children).map (asKind "pair_pattern" label)
      | "spread_element" => (asRest? children).map (asKind "rest_pattern" label)
      | _ => none

/-- The parts of a pattern that the parts of a literal are. -/
def asElements? : List Node → Option (List Node)
  | [] => some []
  | node :: rest =>
    match asElement? node, asElements? rest with
    | some node, some rest => some (node :: rest)
    | _, _ => none

/-- Some nodes of which the one under a field is made a target, possibly one with a default value.
-/
def asPart? (field : String) (withDefault : Bool) : List Node → Option (List Node)
  | [] => some []
  | node :: rest =>
    let part :=
      if node.label.field = some field then
        if withDefault then asElement? node else asTarget? node
      else some node
    match part, asPart? field withDefault rest with
    | some node, some rest => some (node :: rest)
    | _, _ => none

/-- Some nodes of which the named ones other than comments are made targets. -/
def asRest? : List Node → Option (List Node)
  | [] => some []
  | node :: rest =>
    let part :=
      if !node.named || node.kind = "comment" || node.kind = "html_comment" then some node
      else asTarget? node
    match part, asRest? rest with
    | some node, some rest => some (node :: rest)
    | _, _ => none

end

/-- Whether an expression may stand to the left of an assignment by an operator. -/
def isReference (node : Node) : Bool :=
  ["identifier", "member_expression", "subscript_expression", "parenthesized_expression"].contains
    node.kind

/-- What stands to the left of a plain assignment: a target, or a parenthesised expression. -/
def asAssignee? (node : Node) : Option Node :=
  if node.kind = "parenthesized_expression" then some node else asTarget? node

end EcmaEdition.Script
