/-!
# Insertion-ordered maps

Tables keep the order of the page they were read from.  A key that is inserted again
keeps its first position, and its first spelling where keys can be the same without being
equal; its value is replaced.  Which keys are the same is left to the key's `BEq`.
-/

namespace GrammarTables

/-- Entries in order of first insertion.  Built by `insert`, no two keys are the same. -/
structure OrderedMap (Key Value : Type) where
  entries : List (Key × Value)
  deriving Repr

namespace OrderedMap

variable {Key Value : Type}

/-- The map without entries. -/
def empty : OrderedMap Key Value := ⟨[]⟩

instance : EmptyCollection (OrderedMap Key Value) := ⟨empty⟩

instance : Inhabited (OrderedMap Key Value) := ⟨empty⟩

def toList (map : OrderedMap Key Value) : List (Key × Value) := map.entries

def keys (map : OrderedMap Key Value) : List Key := map.entries.map Prod.fst

def size (map : OrderedMap Key Value) : Nat := map.entries.length

@[simp] theorem toList_empty : (empty : OrderedMap Key Value).toList = [] := rfl

variable [BEq Key]

/-- Replaces the value at the first entry whose key is the same, or appends an entry. -/
def insertEntry (key : Key) (value : Value) : List (Key × Value) → List (Key × Value)
  | [] => [(key, value)]
  | entry :: rest =>
    if entry.1 == key then (entry.1, value) :: rest
    else entry :: insertEntry key value rest

/-- The map with the value at the key. -/
def insert (map : OrderedMap Key Value) (key : Key) (value : Value) :
    OrderedMap Key Value :=
  ⟨insertEntry key value map.entries⟩

def contains (map : OrderedMap Key Value) (key : Key) : Bool :=
  map.entries.any fun entry => entry.1 == key

/-- The value at the key, if there is one. -/
def get? (map : OrderedMap Key Value) (key : Key) : Option Value :=
  (map.entries.find? fun entry => entry.1 == key).map Prod.snd

def insertAll (map : OrderedMap Key Value) (entries : List (Key × Value)) :
    OrderedMap Key Value :=
  entries.foldl (fun map entry => map.insert entry.1 entry.2) map

/-- The map that the entries make when inserted in order. -/
def ofList (entries : List (Key × Value)) : OrderedMap Key Value :=
  insertAll empty entries

@[simp] theorem toList_insert (map : OrderedMap Key Value) (key : Key) (value : Value) :
    (map.insert key value).toList = insertEntry key value map.toList := rfl

@[simp] theorem contains_empty (key : Key) :
    (empty : OrderedMap Key Value).contains key = false := rfl

@[simp] theorem insertAll_nil (map : OrderedMap Key Value) : map.insertAll [] = map := rfl

@[simp] theorem insertAll_cons (map : OrderedMap Key Value) (entry : Key × Value)
    (rest : List (Key × Value)) :
    map.insertAll (entry :: rest) = (map.insert entry.1 entry.2).insertAll rest := rfl

end OrderedMap

end GrammarTables
