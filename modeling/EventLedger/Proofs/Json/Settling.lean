import EventLedger.Proofs.Json.Records
import EventLedger.Proofs.Text.Digits

/-! What is decoded from any value is written in one settled form, from which the same is decoded
again. A record settles when the values of its fields do. -/

namespace EventLedger

open Json

namespace Decoder

variable {α : Type} {d : Decoder α} {write : α → Json}

/-- What the decoder makes of a value is written as a value of which it makes the same. -/
structure Settles (d : Decoder α) (write : α → Json) : Prop where
  again : ∀ {v a}, d v = .ok a → d (write a) = .ok a
  present : ∀ a, write a ≠ .null

theorem string_settles : string.Settles .string := ⟨fun _ => rfl, fun _ => nofun⟩

theorem boolean_settles : boolean.Settles .bool := ⟨fun _ => rfl, fun _ => nofun⟩

theorem natural_settles (name : String) (high : Nat) : (natural name high).Settles .nat where
  again decoded := natural_nat (natural_le decoded)
  present _ := nofun

theorem items_eq_ok {vs : List Json} {xs : List α} :
    items d vs = .ok xs ↔ List.Forall₂ (fun v x => d v = .ok x) vs xs := by
  constructor
  · intro read
    induction vs generalizing xs with
    | nil =>
      cases read
      exact .nil
    | cons v vs ih =>
      obtain ⟨x, here, rest⟩ := bind_eq_ok.mp read
      obtain ⟨ys, later, made⟩ := bind_eq_ok.mp rest
      cases made
      exact .cons here (ih later)
  · intro each
    induction each with
    | nil => rfl
    | cons here _ ih => exact bind_eq_ok.mpr ⟨_, here, bind_eq_ok.mpr ⟨_, ih, rfl⟩⟩

/-- A value is a list whose items are read as the given elements. -/
def Lists (d : Decoder α) (v : Json) (xs : List α) : Prop :=
  ∃ items, v = .array items ∧ List.Forall₂ (fun i x => d i = .ok x) items xs

theorem list_eq_ok {v : Json} {xs : List α} : list d v = .ok xs ↔ d.Lists v xs := by
  cases v with
  | array vs =>
    simp only [Lists, Json.array.injEq, exists_eq_left']
    exact items_eq_ok
  | _ => exact iff_of_false nofun nofun

theorem Lists.unique {v : Json} {xs ys : List α} (hx : d.Lists v xs) (hy : d.Lists v ys) : xs = ys :=
  Except.ok.inj ((list_eq_ok.mpr hx).symm.trans (list_eq_ok.mpr hy))

/-- Texts are listed by a list of texts only. -/
theorem lists_string {v : Json} {xs : List String} : string.Lists v xs ↔ v = .strings xs := by
  have text {i : Json} {x : String} : string i = .ok x ↔ i = .string x := by
    cases i <;> simp [string]
  have same {items : List Json} :
      List.Forall₂ (fun i x => i = .string x) items xs ↔ items = xs.map .string := by
    rw [← List.forall₂_map_right_iff (R := (· = ·)), List.forall₂_eq_eq_eq]
  simp only [Lists, text, same, exists_eq_right]
  rfl

theorem strings_settles : strings.Settles .strings where
  again _ := list_eq_ok.mpr (lists_string.mpr rfl)
  present _ := nofun

/-- A choice is written by its name, so it settles when every name stands for its own value. -/
theorem choice_settles {choices : List (String × α)} {name : α → String}
    (named : ∀ a, choices.find? (fun c => c.1 == name a) = some (name a, a)) :
    (choice choices).Settles fun a => .string (name a) where
  again {_ a} _ := by
    simp only [choice, named a]
  present _ := nofun

/-- Nothing is written as `null`, and nothing else is. -/
theorem Settles.optional (settles : d.Settles write) {v : Json} {x : Option α}
    (decoded : d.optional v = .ok x) : d.optional (.optional write x) = .ok x := by
  cases x with
  | none => rfl
  | some a =>
    have inner : d v = .ok a := by
      unfold Decoder.optional at decoded
      split at decoded
      · cases decoded
      · obtain ⟨b, decoded, same⟩ := map_eq_ok.mp decoded
        cases same
        exact decoded
    have present := settles.present a
    change d.optional (write a) = .ok (some a)
    unfold Decoder.optional
    split
    · contradiction
    · rw [settles.again inner]
      rfl

end Decoder

theorem Json.lookup_sortMembers {ms : List (String × Json)} (distinct : (ms.map (·.1)).Nodup)
    {m : String × Json} (member : m ∈ ms) : lookup m.1 (sortMembers ms) = some m.2 := by
  induction ms using List.reverseRecOn with
  | nil => cases member
  | append_singleton ms last ih =>
    rw [List.map_append, List.nodup_append] at distinct
    obtain ⟨before, -, apart⟩ := distinct
    rw [sortMembers, List.foldl_append, List.foldl_cons, List.foldl_nil, insertMember_eq_insertEntry,
      lookup, Index.find?_insertEntry]
    rcases List.mem_append.mp member with member | here
    · have other : last.1 ≠ m.1 := by
        have := apart m.1 (List.mem_map_of_mem member) last.1 (by simp)
        exact fun same => this same.symm
      rw [if_neg other]
      exact ih before member
    · rw [List.mem_singleton.mp here, if_pos rfl]

namespace Record

variable {α β : Type}

/-- The members are those of the fields in order, each passes its check, and a value is made of
    them. -/
structure Makes (r : Record α) (ms : List (String × Json)) (x : α) : Prop where
  takes : List.Forall₂ (fun (f : Field) (m : String × Json) => f.name = m.1 ∧ f.check m.2 = .ok ())
    r.fields ms
  makes : ∀ find absent, (∀ m ∈ ms, find m.1 = some m.2) → r.build find absent = .ok x

theorem Makes.of (title : String) (x : α) : (Record.of title x).Makes [] x := ⟨.nil, fun _ _ _ => rfl⟩

section Fields

variable {ms : List (String × Json)} {name : String} {f : α → β} {r : Record (α → β)} {d : Decoder α}
  {v : Json} {a value : α}

theorem Makes.found {find : String → Option Json} (found : ∀ m ∈ ms ++ [(name, v)], find m.1 = some m.2) :
    (∀ m ∈ ms, find m.1 = some m.2) ∧ find name = some v :=
  ⟨fun m member => found m (List.mem_append_left _ member), found (name, v) (by simp)⟩

theorem Makes.required (makes : r.Makes ms f) (decoded : d v = .ok a) :
    (r.required name d).Makes (ms ++ [(name, v)]) (f a) where
  takes := List.rel_append makes.takes (.cons ⟨rfl, Decoder.check_of_ok decoded⟩ .nil)
  makes find absent found := by
    obtain ⟨before, here⟩ := Makes.found found
    exact required_build.mpr ⟨f, v, a, makes.makes find absent before, here, decoded, rfl⟩

theorem Makes.defaulted (makes : r.Makes ms f) (decoded : d v = .ok a) :
    (r.defaulted name d value).Makes (ms ++ [(name, v)]) (f a) where
  takes := List.rel_append makes.takes (.cons ⟨rfl, Decoder.check_of_ok decoded⟩ .nil)
  makes find absent found := by
    obtain ⟨before, here⟩ := Makes.found found
    exact defaulted_build.mpr ⟨f, a, makes.makes find absent before, by rw [here]; exact decoded, rfl⟩

end Fields

section Decode

variable {r : Record α} {ms : List (String × Json)} {x : α}

theorem Makes.names (makes : r.Makes ms x) : ms.map (·.1) = r.fields.map (·.name) := by
  obtain ⟨takes, -⟩ := makes
  generalize r.fields = fs at takes
  induction takes with
  | nil => rfl
  | cons same _ ih => rw [List.map_cons, List.map_cons, same.1, ih]

theorem checkMembers_eq_ok (passes : ∀ m ∈ ms, ∀ f, r.field? m.1 = some f → f.check m.2 = .ok ()) :
    r.checkMembers ms = .ok () := by
  induction ms with
  | nil => rfl
  | cons m ms ih =>
    obtain ⟨name, v⟩ := m
    have others := ih fun m member => passes m (List.mem_cons_of_mem _ member)
    rw [checkMembers, others]
    cases field : r.field? name with
    | none => rfl
    | some f =>
      have here := passes (name, v) List.mem_cons_self f field
      dsimp only at here ⊢
      rw [here]
      rfl

theorem Makes.check (makes : r.Makes ms x) (distinct : (ms.map (·.1)).Nodup) {m : String × Json}
    (member : m ∈ ms) {f : Field} (field : r.field? m.1 = some f) : f.check m.2 = .ok () := by
  have named : f.name = m.1 := by simpa using List.find?_some field
  have listed := List.mem_of_find?_eq_some field
  obtain ⟨i, bound, rfl⟩ := List.getElem_of_mem listed
  have length := makes.takes.length_eq
  have takes := makes.takes.get bound (length ▸ bound)
  have same : ms[i] = m :=
    List.inj_on_of_nodup_map distinct (List.getElem_mem _) member (takes.1.symm.trans named)
  rw [← same]
  exact takes.2

/-- The members may be sorted: each is found by its name. -/
theorem Makes.decode (makes : r.Makes ms x) (distinct : (r.fields.map (·.name)).Nodup) :
    r.decode (.record ms) = .ok x := by
  rw [← makes.names] at distinct
  have checked : r.checkMembers (sortMembers ms) = .ok () :=
    checkMembers_eq_ok fun m member f field =>
      makes.check distinct (mem_of_mem_sortMembers member) field
  have found (m : String × Json) (member : m ∈ ms) : lookup m.1 (sortMembers ms) = some m.2 :=
    lookup_sortMembers distinct member
  rw [Json.record, Record.decode, checked, ok_bind]
  exact makes.makes _ _ found

theorem build_of_decode {v : Json} (h : r.decode v = .ok x) :
    ∃ find absent, r.build find absent = .ok x := by
  unfold Record.decode at h
  split at h
  · obtain ⟨⟨⟩, -, built⟩ := bind_eq_ok.mp h
    exact ⟨_, _, built⟩
  · obtain ⟨y, built, h⟩ := bind_eq_ok.mp h
    split at h
    · cases h
    · cases h
      exact ⟨_, _, built⟩
  · cases h

/-- Whatever the record builds is made again of members with the property. -/
def Remakes (r : Record α) (Q : α → List (String × Json) → Prop) : Prop :=
  ∀ find absent x, r.build find absent = .ok x → ∃ ms, Q x ms ∧ r.Makes ms x

/-- What the record makes of a value is written as an object of which it makes the same. -/
structure Settles (r : Record α) (write : α → Json) : Prop where
  distinct : (r.fields.map (·.name)).Nodup
  remakes : r.Remakes fun x ms => write x = .record ms

theorem Settles.decode {write : α → Json} (settles : r.Settles write) {v : Json}
    (h : r.decode v = .ok x) : r.decode (write x) = .ok x := by
  obtain ⟨find, absent, built⟩ := build_of_decode h
  obtain ⟨ms, written, makes⟩ := settles.remakes find absent x built
  rw [written]
  exact makes.decode settles.distinct

end Decode

/-! The members that remain to be written are asked of the fields before: what has to hold of the
whole record is passed on to them for every value of the last field. -/

namespace Remakes

variable {name : String} {r : Record (α → β)} {d : Decoder α} {write : α → Json}
  {Q : β → List (String × Json) → Prop}

theorem of {title : String} {f : α} {Q : α → List (String × Json) → Prop} (h : Q f []) :
    (Record.of title f).Remakes Q := by
  intro find absent x built
  cases built
  exact ⟨[], h, .of title f⟩

theorem required (settles : d.Settles write)
    (h : r.Remakes fun f ms => ∀ a, Q (f a) (ms ++ [(name, write a)])) :
    (r.required name d).Remakes Q := by
  intro find absent x built
  obtain ⟨f, v, a, before, -, decoded, rfl⟩ := required_build.mp built
  obtain ⟨ms, each, makes⟩ := h find absent f before
  exact ⟨_, each a, makes.required (settles.again decoded)⟩

theorem absentable {value : α} (again : ∀ {v a}, d v = .ok a → d (write a) = .ok a)
    (default : d (write value) = .ok value)
    (h : r.Remakes fun f ms => ∀ a, Q (f a) (ms ++ [(name, write a)])) :
    (r.defaulted name d value).Remakes Q := by
  intro find absent x built
  obtain ⟨f, a, before, decoded, rfl⟩ := defaulted_build.mp built
  obtain ⟨ms, each, makes⟩ := h find absent f before
  refine ⟨_, each a, makes.defaulted ?_⟩
  cases given : find name with
  | none =>
    rw [given] at decoded
    cases decoded
    exact default
  | some v =>
    rw [given] at decoded
    exact again decoded

theorem defaulted {value : α} (settles : d.Settles write) (default : d (write value) = .ok value)
    (h : r.Remakes fun f ms => ∀ a, Q (f a) (ms ++ [(name, write a)])) :
    (r.defaulted name d value).Remakes Q := absentable settles.again default h

theorem optional {r : Record (Option α → β)} (settles : d.Settles write)
    (h : r.Remakes fun f ms => ∀ a, Q (f a) (ms ++ [(name, .optional write a)])) :
    (r.optional name d).Remakes Q := absentable settles.optional rfl h

end Remakes

end Record
end EventLedger
