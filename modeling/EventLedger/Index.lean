import EventLedger.Json.Basic

namespace EventLedger

section Entries

variable {κ : Type} [LT κ] [DecidableLT κ] [DecidableEq κ]

def insertEntry (name : κ) (value : α) : List (κ × α) → List (κ × α)
  | [] => [(name, value)]
  | (k, v) :: rest =>
    if name < k then (name, value) :: (k, v) :: rest
    else if name = k then (name, value) :: rest
    else (k, v) :: insertEntry name value rest

theorem mem_insertEntry {name : κ} {value : α} {entries : List (κ × α)} {e : κ × α}
    (h : e ∈ insertEntry name value entries) :
    e = (name, value) ∨ e ∈ entries := by
  induction entries with
  | nil => simpa [insertEntry] using h
  | cons head rest ih =>
    obtain ⟨k, v⟩ := head
    simp only [insertEntry] at h
    split at h
    · simpa using h
    · split at h
      · rcases List.mem_cons.1 h with h | h
        · exact .inl h
        · exact .inr (List.mem_cons_of_mem _ h)
      · rcases List.mem_cons.1 h with h | h
        · exact .inr (h ▸ List.mem_cons_self)
        · exact (ih h).imp id (List.mem_cons_of_mem _)

variable [LE κ] [Std.IsLinearOrder κ] [Std.LawfulOrderLT κ]

theorem insertEntry_ascending (name : κ) (value : α) {entries : List (κ × α)}
    (h : entries.Pairwise fun a b => a.1 < b.1) :
    (insertEntry name value entries).Pairwise fun a b => a.1 < b.1 := by
  induction entries with
  | nil => simp [insertEntry]
  | cons head rest ih =>
    obtain ⟨k, v⟩ := head
    have hrest := (List.pairwise_cons.1 h).2
    have hk := (List.pairwise_cons.1 h).1
    simp only [insertEntry]
    split
    · rename_i lt
      refine List.pairwise_cons.2 ⟨fun e he => ?_, h⟩
      rcases List.mem_cons.1 he with rfl | he
      · exact lt
      · exact Std.lt_trans lt (hk e he)
    · rename_i nlt
      split
      · rename_i eq
        exact List.pairwise_cons.2 ⟨fun e he => by simpa [eq] using hk e he, hrest⟩
      · rename_i ne
        refine List.pairwise_cons.2 ⟨fun e he => ?_, ih hrest⟩
        rcases mem_insertEntry he with rfl | he
        · rcases Std.lt_trichotomy name k with lt | eq | gt
          · exact absurd lt nlt
          · exact absurd eq ne
          · exact gt
        · exact hk e he

end Entries

/-- Values by name, in ascending order of names. Names are texts, or of another linear order. -/
structure Index (α : Type) (κ : Type := String) [LT κ] where
  entries : List (κ × α)
  ascending : entries.Pairwise fun a b => a.1 < b.1

namespace Index

section Names

variable {κ : Type} [LT κ]

def empty : Index α κ := ⟨[], .nil⟩

instance : Inhabited (Index α κ) := ⟨empty⟩

def names (x : Index α κ) : List κ := x.entries.map (·.1)

def values (x : Index α κ) : List α := x.entries.map (·.2)

def isEmpty (x : Index α κ) : Bool := x.entries.isEmpty

variable [DecidableEq κ]

def find? (x : Index α κ) (name : κ) : Option α :=
  (x.entries.find? fun e => e.1 == name).map (·.2)

def contains (x : Index α κ) (name : κ) : Bool := (x.find? name).isSome

def erase (x : Index α κ) (name : κ) : Index α κ :=
  ⟨x.entries.filter fun e => e.1 != name, x.ascending.filter _⟩

variable [DecidableLT κ] [LE κ] [Std.IsLinearOrder κ] [Std.LawfulOrderLT κ]

def insert (x : Index α κ) (name : κ) (value : α) : Index α κ :=
  ⟨insertEntry name value x.entries, insertEntry_ascending name value x.ascending⟩

def ofList (entries : List (κ × α)) : Index α κ :=
  entries.foldl (fun x e => x.insert e.1 e.2) empty

def increment (x : Index Nat κ) (name : κ) : Index Nat κ :=
  x.insert name ((x.find? name).getD 0 + 1)

end Names

def toJson (f : α → Json) (x : Index α) : Json := .object (x.entries.map fun e => (e.1, f e.2))

end Index
end EventLedger
