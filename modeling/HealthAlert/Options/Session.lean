import HealthAlert.Options.Cache

/-!
# Sessions with lists of options

Model of `load_options` with the copies that it returns.

A caller may change a list that it was given, and the records in it. So each load gives a list and
records of its own: the records that the cache keeps are copied for every caller. Here lists and
records are objects under addresses, and a caller can change an object whose address it was given.
-/

namespace HealthAlert.Options

/-! ## Objects -/

/-- Where an object is. -/
abbrev Address := Nat

/-- An object, which may change after it was made. -/
inductive Object where
  | record (fields : List (String × Value))
  | list (items : List Address)
  deriving Repr, Inhabited

/-- The record for a choice. -/
def Object.ofChoice (c : Choice) : Object :=
  .record [("value", .text c.value), ("label", .text c.label)]

/-- The objects that were made, each at its address. -/
structure Store where
  objects : List Object := []
  deriving Repr, Inhabited

namespace Store

/-- The object at an address. -/
def get? (s : Store) (at' : Address) : Option Object := s.objects[at']?

/-- The objects at addresses. -/
def getAll (s : Store) (addresses : List Address) : List Object := addresses.filterMap s.get?

/-- What the list at an address holds. -/
def content (s : Store) (at' : Address) : List Object :=
  match s.get? at' with
  | some (.list items) => s.getAll items
  | _ => []

/-- The store with new objects, and their addresses. -/
def addAll (s : Store) (objects : List Object) : Store × List Address :=
  ({ objects := s.objects ++ objects }, List.range' s.objects.length objects.length)

/-- The store with another object at an address. -/
def set (s : Store) (at' : Address) (object : Object) : Store :=
  { objects := s.objects.set at' object }

end Store

/-! ## Sessions -/

/-- Something that happens to the data files, to the cache or to what was loaded. -/
inductive Step where
  | write (path : Path) (bytes : List UInt8)
  | makeDirectory (path : Path)
  | remove (path : Path)
  | clear
  | load (directory : DataDirectory) (name : String)
  /-- A caller makes an object into another one. -/
  | change (address : Address) (object : Object)
  deriving Repr

/-- The data files, the cache, the objects and the addresses that callers were given. -/
structure Session where
  files : FileTree := {}
  cache : LruCache (List Address) := {}
  store : Store := {}
  given : List Address := []
  deriving Inhabited

/-- What a caller is given: the address of a list, what the list holds at that moment, and what was
logged. -/
structure Delivery where
  address : Address
  content : List Object
  log : List Log.Row

namespace Session

/-- The session after a change to the files, which stay as they are when it fails. -/
def changeFiles (s : Session) (change : FileTree → Except InternalError FileTree) : Session :=
  match change s.files with
  | .ok files => { s with files }
  | .error _ => s

/-- A new list of copies of records for a caller. -/
def deliver (s : Session) (kept : List Address) (log : List Log.Row) : Session × Delivery :=
  let (store, copies) := s.store.addAll (s.store.getAll kept)
  let address := store.objects.length
  let store : Store := { objects := store.objects ++ [.list copies] }
  ({ s with store, given := address :: copies ++ s.given },
    { address, content := store.content address, log })

/-- The session after a list of options was asked for, and what the caller is given. -/
def load (s : Session) (dir : DataDirectory) (kind : OptionKind) :
    Session × Except Trouble Delivery :=
  let key : CacheKey := ⟨kind, dir⟩
  match s.cache.find? key with
  | some kept =>
    let (s, delivery) := { s with cache := s.cache.hit key kept }.deliver kept []
    (s, .ok delivery)
  | none =>
    match Options.load s.files dir kind with
    | .ok loading =>
      let (store, kept) := s.store.addAll (loading.choices.map .ofChoice)
      let (s, delivery) := { s with store, cache := s.cache.keep key kept }.deliver kept loading.log
      (s, .ok delivery)
    | .error t => ({ s with cache := s.cache.miss }, .error t)

/-- The session after a step, and the result of a load. A caller can change only what it was
given. -/
def step (s : Session) : Step → Session × Option (Except Trouble Delivery)
  | .write path bytes => (s.changeFiles (·.write path bytes), none)
  | .makeDirectory path => (s.changeFiles (·.makeDirectory path), none)
  | .remove path => ({ s with files := s.files.remove path }, none)
  | .clear => ({ s with cache := {} }, none)
  | .load dir name =>
    match OptionKind.resolve name with
    | .error f => (s, some (.error (.failure f)))
    | .ok kind =>
      let (s, result) := s.load dir kind
      (s, some result)
  | .change address object =>
    (if address ∈ s.given then { s with store := s.store.set address object } else s, none)

/-- The session after steps. -/
def run (s : Session) (steps : List Step) : Session :=
  steps.foldl (fun s a => (s.step a).1) s

end Session

end HealthAlert.Options
