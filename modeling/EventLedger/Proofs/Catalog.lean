import EventLedger.Catalog
import Mathlib.Data.List.Basic
import Mathlib.Data.List.Infix

/-! What the catalog says of a type of event: the one kind that it names, or else the one domain that
the longest stem at its start belongs to. -/

namespace EventLedger
namespace Kind

theorem mem_all (k : Kind) : k ∈ all := by cases k <;> decide

theorem ofName?_name (k : Kind) : ofName? k.name = some k := by cases k <;> decide

theorem ofName?_eq_some {s : String} {k : Kind} : ofName? s = some k ↔ k.name = s := by
  constructor
  · intro found
    rw [ofName?] at found
    have named := List.find?_some found
    exact eq_of_beq named
  · intro named
    rw [← named, ofName?_name]

theorem ofName?_eq_none {s : String} : ofName? s = none ↔ ∀ k : Kind, k.name ≠ s := by
  rw [Option.eq_none_iff_forall_ne_some]
  exact forall_congr' fun k => not_congr ofName?_eq_some

theorem mem_ofDomain {d : Domain} {k : Kind} : k ∈ ofDomain d ↔ k.domain = d := by
  simp [ofDomain, mem_all]

end Kind

namespace Domain

theorem mem_all (d : Domain) : d ∈ all := by cases d <;> decide

/-- The type of event is one that the catalog lists under the domain. -/
def Catalogs (d : Domain) (eventType : String) : Prop :=
  ∃ k : Kind, k.name = eventType ∧ k.domain = d

/-- Some stem of the domain is at the start of the text, and no domain has a longer one there. -/
def OwnsLongestStem (d : Domain) (s : String) : Prop :=
  ∃ stem ∈ d.stems, beginsWith stem s ∧
    ∀ d' : Domain, ∀ other ∈ d'.stems, beginsWith other s → other.length ≤ stem.length

def Uncatalogued (eventType : String) : Prop := ∀ k : Kind, k.name ≠ eventType

def Unclaimed (s : String) : Prop := ∀ d : Domain, ∀ stem ∈ d.stems, ¬ beginsWith stem s

theorem catalogs_iff {d : Domain} {s : String} :
    d.Catalogs s ↔ (Kind.ofName? s).map Kind.domain = some d := by
  simp only [Catalogs, Option.map_eq_some_iff, Kind.ofName?_eq_some]

theorem mem_matchingStems {s : String} {m : Nat × Domain} :
    m ∈ matchingStems s ↔ ∃ stem ∈ m.2.stems, beginsWith stem s ∧ stem.length = m.1 := by
  obtain ⟨n, d⟩ := m
  simp only [matchingStems, List.mem_flatMap, List.mem_map, List.mem_filter, Prod.mk.injEq]
  constructor
  · rintro ⟨d', -, stem, ⟨member, start⟩, length, rfl⟩
    exact ⟨stem, member, start, length⟩
  · rintro ⟨stem, member, start, length⟩
    exact ⟨d, mem_all d, stem, ⟨member, start⟩, length, rfl⟩

/-- The later one of two stems of one length stays. -/
def longer (best : Option (Nat × Domain)) (m : Nat × Domain) : Option (Nat × Domain) :=
  match best with
  | some b => if b.1 ≤ m.1 then some m else some b
  | none => some m

theorem claiming_eq (s : String) :
    claiming s = ((matchingStems s).foldl longer none).map (·.2) := rfl

/-- A fold that keeps the longer one ends with a longest, unless there is nothing to keep. -/
theorem longest_spec (ms : List (Nat × Domain)) :
    (ms = [] ∧ ms.foldl longer none = none) ∨
      ∃ b ∈ ms, ms.foldl longer none = some b ∧ ∀ m ∈ ms, m.1 ≤ b.1 := by
  induction ms using List.reverseRecOn with
  | nil => exact .inl ⟨rfl, rfl⟩
  | append_singleton ms m ih =>
    have last : m ∈ ms ++ [m] := List.mem_append_right ms (List.mem_singleton_self m)
    rw [List.foldl_concat]
    rcases ih with ⟨rfl, kept⟩ | ⟨b, member, kept, greatest⟩
    · refine .inr ⟨m, last, by rw [kept, longer], fun m' member' => ?_⟩
      rw [List.mem_singleton.mp member']
    · by_cases le : b.1 ≤ m.1
      · refine .inr ⟨m, last, by rw [kept, longer, if_pos le], fun m' member' => ?_⟩
        rcases List.mem_append.mp member' with earlier | newest
        · exact (greatest m' earlier).trans le
        · rw [List.mem_singleton.mp newest]
      · refine .inr ⟨b, List.mem_append_left _ member, by rw [kept, longer, if_neg le], ?_⟩
        intro m' member'
        rcases List.mem_append.mp member' with earlier | newest
        · exact greatest m' earlier
        · rw [List.mem_singleton.mp newest]
          omega

theorem stem_owner {d d' : Domain} {stem : String} (mine : stem ∈ d.stems)
    (yours : stem ∈ d'.stems) : d = d' := by
  have distinct : ∀ a ∈ all, ∀ b ∈ all, ∀ t ∈ a.stems, t ∈ b.stems → a = b := by decide
  exact distinct d (mem_all d) d' (mem_all d') stem mine yours

theorem stem_of_same_length {a b s : String} (ha : beginsWith a s) (hb : beginsWith b s)
    (length : a.length = b.length) : a = b := by
  have pa : a.toList <+: s.toList := List.isPrefixOf_iff_prefix.mp ha
  have pb : b.toList <+: s.toList := List.isPrefixOf_iff_prefix.mp hb
  have within : a.toList <+: b.toList := by
    apply List.prefix_of_prefix_length_le pa pb
    rw [String.length_toList, String.length_toList, length]
  apply String.toList_injective
  apply within.eq_of_length
  rw [String.length_toList, String.length_toList, length]

theorem OwnsLongestStem.unique {d d' : Domain} {s : String} (h : d.OwnsLongestStem s)
    (h' : d'.OwnsLongestStem s) : d = d' := by
  obtain ⟨stem, member, start, longest⟩ := h
  obtain ⟨stem', member', start', longest'⟩ := h'
  have length : stem.length = stem'.length :=
    le_antisymm (longest' d stem member start) (longest d' stem' member' start')
  have same : stem = stem' := stem_of_same_length start start' length
  exact stem_owner member (same ▸ member')

theorem ownsLongestStem_of_greatest {s : String} {b : Nat × Domain} (member : b ∈ matchingStems s)
    (greatest : ∀ m ∈ matchingStems s, m.1 ≤ b.1) : b.2.OwnsLongestStem s := by
  obtain ⟨stem, owned, start, length⟩ := mem_matchingStems.mp member
  refine ⟨stem, owned, start, fun d' other owned' start' => ?_⟩
  rw [length]
  exact greatest (other.length, d') (mem_matchingStems.mpr ⟨other, owned', start', rfl⟩)

/-- A text is claimed by the domain that has the longest stem at its start, and there is at most one. -/
theorem claiming_eq_some {s : String} {d : Domain} : claiming s = some d ↔ d.OwnsLongestStem s := by
  rw [claiming_eq]
  rcases longest_spec (matchingStems s) with ⟨empty, kept⟩ | ⟨b, member, kept, greatest⟩
  · rw [kept]
    refine iff_of_false (by simp) fun ⟨stem, owned, start, _⟩ => ?_
    have found : (stem.length, d) ∈ matchingStems s :=
      mem_matchingStems.mpr ⟨stem, owned, start, rfl⟩
    rw [empty] at found
    exact List.not_mem_nil found
  · have owner := ownsLongestStem_of_greatest member greatest
    rw [kept, Option.map_some, Option.some_inj]
    exact ⟨fun same => same ▸ owner, fun h => owner.unique h⟩

theorem claiming_eq_none {s : String} : claiming s = none ↔ Unclaimed s := by
  rw [claiming_eq, Option.map_eq_none_iff]
  have nothing : Unclaimed s ↔ matchingStems s = [] := by
    rw [List.eq_nil_iff_forall_not_mem]
    constructor
    · intro unclaimed m found
      obtain ⟨stem, owned, start, -⟩ := mem_matchingStems.mp found
      exact unclaimed m.2 stem owned start
    · intro nothing d stem owned start
      exact nothing (stem.length, d) (mem_matchingStems.mpr ⟨stem, owned, start, rfl⟩)
  rw [nothing]
  rcases longest_spec (matchingStems s) with ⟨empty, kept⟩ | ⟨b, member, kept, -⟩
  · exact iff_of_true kept empty
  · refine iff_of_false (by simp [kept]) fun empty => ?_
    rw [empty] at member
    exact List.not_mem_nil member

instance (d : Domain) (s : String) : Decidable (d.Catalogs s) := decidable_of_iff' _ catalogs_iff

instance (d : Domain) (s : String) : Decidable (d.OwnsLongestStem s) :=
  decidable_of_iff _ claiming_eq_some

instance (s : String) : Decidable (Unclaimed s) := decidable_of_iff _ claiming_eq_none

instance (s : String) : Decidable (Uncatalogued s) := decidable_of_iff _ Kind.ofName?_eq_none

/-- The longest stem decides: a type under `MissionAudit` is not one of the missions. -/
example : OwnsLongestStem .missionAudit "MissionAuditPaused" := by decide

end Domain
end EventLedger
