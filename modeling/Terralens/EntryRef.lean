import Terralens.KeyMap

/-!
# Names of entries

Every entry of a configuration has a kind and a key. Resources and data sources are keyed
by type and name, written `type.name`; all others by their name.
-/

namespace Terralens

inductive EntryKind where
  | resource
  | dataSource
  | variable
  | output
  | local
  | module
  | provider
deriving DecidableEq, Repr, Inhabited

namespace EntryKind

def all : List EntryKind :=
  [.resource, .dataSource, .variable, .output, .local, .module, .provider]

def rank : EntryKind → Nat
  | .resource => 0
  | .dataSource => 1
  | .variable => 2
  | .output => 3
  | .local => 4
  | .module => 5
  | .provider => 6

theorem rank_injective {a b : EntryKind} (h : a.rank = b.rank) : a = b := by
  cases a <;> cases b <;> first | rfl | cases h

def text : EntryKind → String
  | .resource => "resource"
  | .dataSource => "data source"
  | .variable => "variable"
  | .output => "output"
  | .local => "local"
  | .module => "module"
  | .provider => "provider"

def tag : EntryKind → String
  | .dataSource => "data_source"
  | kind => kind.text

end EntryKind

structure ResourceKey where
  type : String
  name : String
deriving DecidableEq, Repr, Inhabited

namespace ResourceKey

def order (a b : ResourceKey) : Ordering := (compare a.type b.type).then (compare a.name b.name)

instance : Ord ResourceKey := ⟨order⟩

instance : Std.TransOrd ResourceKey :=
  inferInstanceAs (Std.TransCmp (compareLex (compareOn type) (compareOn name)))

instance : Std.LawfulEqOrd ResourceKey where
  eq_of_compare {a b} h := by
    obtain ⟨htype, hname⟩ := Ordering.then_eq_eq.mp h
    cases a
    cases b
    simp_all [Std.LawfulEqCmp.compare_eq_iff_eq]

def text (k : ResourceKey) : String := k.type ++ "." ++ k.name

end ResourceKey

/-- The name of one entry of a configuration: its kind and its key. What refers to what is said in
  these names. -/
structure EntryRef where
  kind : EntryKind
  key : String
deriving DecidableEq, Repr, Inhabited

namespace EntryRef

def order (a b : EntryRef) : Ordering :=
  (compare a.kind.rank b.kind.rank).then (compare a.key b.key)

instance : Ord EntryRef := ⟨order⟩

instance : Std.TransOrd EntryRef :=
  inferInstanceAs (Std.TransCmp (compareLex (compareOn fun r => r.kind.rank) (compareOn key)))

instance : Std.LawfulEqOrd EntryRef where
  eq_of_compare {a b} h := by
    obtain ⟨hrank, hkey⟩ := Ordering.then_eq_eq.mp h
    have hkind : a.kind = b.kind :=
      EntryKind.rank_injective (Std.LawfulEqCmp.compare_eq_iff_eq.mp hrank)
    cases a
    cases b
    simp_all [Std.LawfulEqCmp.compare_eq_iff_eq]

def resource (k : ResourceKey) : EntryRef := ⟨.resource, k.text⟩

def dataSource (k : ResourceKey) : EntryRef := ⟨.dataSource, k.text⟩

/-- A name as it is displayed, which is also how a text refers to the entry. Resources and providers
  have no word in front, so names of different entries can be displayed alike: a resource of type
  `output` and an output. -/
def text (r : EntryRef) : String :=
  match r.kind with
  | .resource => r.key
  | .provider => r.key
  | .dataSource => "data." ++ r.key
  | .variable => "var." ++ r.key
  | .output => "output." ++ r.key
  | .local => "local." ++ r.key
  | .module => "module." ++ r.key

end EntryRef

end Terralens
