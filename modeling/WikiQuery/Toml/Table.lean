import WikiQuery.Toml.Value

/-!
The tables of a document while they are filled. How a table came to be says what may still be done
to it: one that was opened by a header is not opened again, and only one that came to be by dotted
keys takes more of them.
-/

set_option autoImplicit false

namespace WikiQuery.Toml

/-- How a table came to be. -/
inductive Origin
  /-- By a header of its own. -/
  | stated
  /-- On the way of the header of another table. -/
  | implied
  /-- By a dotted key. -/
  | dotted
  deriving DecidableEq, Repr

/-- What stands under a key. -/
inductive Node
  | leaf (v : Value)
  | table (origin : Origin) (members : List (String × Node))
  /-- Tables that headers in double brackets opened, the latest last. -/
  | tables (elements : List (List (String × Node)))

/-- The members of a table. -/
abbrev Members := List (String × Node)

namespace Members

/-- The members with another node under a key that is there. -/
def replace (ms : Members) (key : String) (node : Node) : Members :=
  ms.map fun m => if m.1 = key then (key, node) else m

/-- The nodes of a list of tables with the last one changed. -/
def changeLast (elements : List Members) (change : Members → Option Members) :
    Option (List Members) :=
  match elements.getLast? with
  | none => none
  | some last => (change last).map fun last => elements.dropLast ++ [last]

/-- The members with a value put under a path of keys. A table may take a value directly if
`isOpen` says so, and new tables on the way come to be by dotted keys. -/
def place (v : Value) (isOpen : Bool) : List String → Members → Option Members
  | [], _ => none
  | [key], ms =>
    if isOpen && (List.lookup key ms).isNone then some (ms ++ [(key, .leaf v)]) else none
  | key :: keys, ms =>
    match List.lookup key ms with
    | none => (place v true keys []).map fun sub => ms ++ [(key, .table .dotted sub)]
    | some (.leaf _) => none
    | some (.table .stated _) => none
    | some (.table .implied sub) =>
      (place v false keys sub).map fun sub => replace ms key (.table .implied sub)
    | some (.table .dotted sub) =>
      (place v true keys sub).map fun sub => replace ms key (.table .dotted sub)
    | some (.tables elements) =>
      (changeLast elements (place v false keys)).map fun elements =>
        replace ms key (.tables elements)

/-- The members with the table under a path of keys changed. Tables on the way that are not there
are implied, and of a list of tables the last one is meant. -/
def within (change : Members → Option Members) : List String → Members → Option Members
  | [], ms => change ms
  | key :: keys, ms =>
    match List.lookup key ms with
    | none => (within change keys []).map fun sub => ms ++ [(key, .table .implied sub)]
    | some (.leaf _) => none
    | some (.table origin sub) =>
      (within change keys sub).map fun sub => replace ms key (.table origin sub)
    | some (.tables elements) =>
      (changeLast elements (within change keys)).map fun elements =>
        replace ms key (.tables elements)

/-- The members with the table under a key opened by a header. -/
def openTable (key : String) (ms : Members) : Option Members :=
  match List.lookup key ms with
  | none => some (ms ++ [(key, .table .stated [])])
  | some (.table .implied sub) => some (replace ms key (.table .stated sub))
  | some _ => none

/-- The members with one table more in the list of tables under a key. -/
def openElement (key : String) (ms : Members) : Option Members :=
  match List.lookup key ms with
  | none => some (ms ++ [(key, .tables [[]])])
  | some (.tables elements) => some (replace ms key (.tables (elements ++ [[]])))
  | some _ => none

end Members

mutual

/-- The value that stands under a key. -/
def Node.value : Node → Value
  | .leaf v => v
  | .table _ members => .table (memberValues members)
  | .tables elements => .array (elementValues elements)

/-- The values of the members of a table. -/
def memberValues : List (String × Node) → List (String × Value)
  | [] => []
  | (key, node) :: members => (key, node.value) :: memberValues members

/-- The values of tables in a list. -/
def elementValues : List (List (String × Node)) → List Value
  | [] => []
  | members :: elements => .table (memberValues members) :: elementValues elements

end

end WikiQuery.Toml
