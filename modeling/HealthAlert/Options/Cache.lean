import HealthAlert.Options.Loader

/-!
# The cache of lists

Model of `load_options`, of the cache around `_load_options_cached`, and of `clear_option_cache`.

A list that was read stays in the cache under its kind and directory, so that its file is not
read again. The cache holds at most 32 lists; when it is full, the list that was not asked for
the longest is dropped. A failure is not kept, but counts as a miss.

What is kept for a list is a parameter: in a `Cache` the choices themselves, in a session the
records that stand for them.
-/

namespace HealthAlert.Options

/-- What a list is kept under. -/
structure CacheKey where
  kind : OptionKind
  directory : DataDirectory
  deriving DecidableEq, Repr

/-- The lists that are kept, the one asked for last in front, and how often a list was found. -/
structure LruCache (α : Type) where
  entries : List (CacheKey × α) := []
  hits : Nat := 0
  misses : Nat := 0
  deriving DecidableEq, Repr, Inhabited

namespace LruCache

variable {α : Type}

/-- The most lists that are kept. -/
def capacity : Nat := 32

/-- How many lists are kept. -/
def size (c : LruCache α) : Nat := c.entries.length

/-- The list that is kept under a key. -/
def find? (c : LruCache α) (key : CacheKey) : Option α :=
  (c.entries.find? (·.1 == key)).map (·.2)

/-- The cache after a list was found in it. -/
def hit (c : LruCache α) (key : CacheKey) (kept : α) : LruCache α :=
  { c with
    entries := (key, kept) :: c.entries.filter (·.1 != key)
    hits := c.hits + 1 }

/-- The cache after a list was read. -/
def keep (c : LruCache α) (key : CacheKey) (kept : α) : LruCache α :=
  { c with
    entries := ((key, kept) :: c.entries).take capacity
    misses := c.misses + 1 }

/-- The cache after a list could not be read. -/
def miss (c : LruCache α) : LruCache α :=
  { c with misses := c.misses + 1 }

end LruCache

/-- The cache of the lists' choices. -/
abbrev Cache := LruCache (List Choice)

namespace Cache

/-- The choices of a list, from the cache or from its file, and the cache afterwards. -/
def load (c : Cache) (files : FileTree) (dir : DataDirectory) (kind : OptionKind) :
    Except Trouble Loading × Cache :=
  let key : CacheKey := ⟨kind, dir⟩
  match c.find? key with
  | some choices => (.ok { choices, log := [] }, c.hit key choices)
  | none =>
    match Options.load files dir kind with
    | .ok loading => (.ok loading, c.keep key loading.choices)
    | .error t => (.error t, c.miss)

/-- `load_options`: the choices of the list with a name, and the cache afterwards. A name without
list fails before the cache is asked. -/
def loadNamed (c : Cache) (files : FileTree) (dir : DataDirectory) (name : String) :
    Except Trouble Loading × Cache :=
  match OptionKind.resolve name with
  | .error f => (.error (.failure f), c)
  | .ok kind => c.load files dir kind

end Cache

end HealthAlert.Options
