import EventLedger.Clock.Storage
import EventLedger.Proofs.Json.RoundTrip

/-! A document of clock values is read back as the values written, whatever the names of the nodes. -/

namespace EventLedger

open Json Text

theorem Decoder.signed64_int {i : Int} (low : leastSigned64 ≤ i) (high : i ≤ greatestSigned64) :
    signed64 (.int i) = .ok i := by
  unfold signed64 integer Json.int
  exact if_pos ⟨low, high⟩

theorem Decoder.signed64_bounds {v : Json} {i : Int} (h : signed64 v = .ok i) :
    leastSigned64 ≤ i ∧ i ≤ greatestSigned64 := by
  unfold signed64 integer at h
  split at h
  · split at h
    · rename_i within
      cases h
      exact within
    · cases h
  · cases h

namespace ClockValues

/-- Values of nodes that fit signed 64-bit integers. -/
def Fit (v : ClockValues) : Prop :=
  ∀ e ∈ v.entries, leastSigned64 ≤ e.2 ∧ e.2 ≤ greatestSigned64

theorem Fit.empty : Fit .empty := List.forall_mem_nil _

theorem Fit.insert {v : ClockValues} (fit : v.Fit) {i : Int} (low : leastSigned64 ≤ i)
    (high : i ≤ greatestSigned64) (node : String) : Fit (v.insert node i) := by
  intro e member
  rcases mem_insertEntry member with rfl | member
  · exact ⟨low, high⟩
  · exact fit e member

theorem valueOf_insert (v : ClockValues) (node other : String) (i : Int) :
    valueOf (v.insert node i) other = if node = other then i else v.valueOf other := by
  rw [valueOf, Index.find?_insert]
  split <;> rfl

theorem indentation_blank (depth : Nat) : ∀ c ∈ indentation depth, isSpace c = true := by
  intro c member
  rcases List.mem_cons.mp member with rfl | member
  · rfl
  · rw [List.eq_of_mem_replicate member]
    rfl

/-- How the value of a node is written behind the colon. -/
def written (i : Int) : List Char := ' ' :: signedDigits i

theorem readScalar_written {i : Int} (low : leastSigned64 ≤ i) (high : i ≤ greatestSigned64)
    {rest : List Char} (ends : Ends continuesNumber rest) :
    readScalar .signed64 (written i ++ rest) = .ok (i, rest) := by
  have fits : (Number.integer i).Fits := by
    simp only [Number.Fits, leastSigned64, greatestSigned64, greatestWord64] at *
    omega
  have blank : ∀ c ∈ [' '], isSpace c = true := by simp [isSpace]
  have start := readStart_integer fits ends
  have plain := skipSpace_chars (.int i) rest
  rw [show Json.chars (.int i) = signedDigits i from rfl] at plain
  rw [readScalar, written, List.cons_append, ← List.singleton_append, skipSpace_append blank, plain,
    start, ok_bind]
  dsimp only
  rw [Decoder.signed64_int low high]
  rfl

theorem prettyMembers_eq_spaced (entries : List (String × Int)) :
    prettyMembers 1 (entries.map fun e => (e.1, .int e.2)) =
      spacedMembers (indentation 1) written entries := by
  induction entries with
  | nil => rfl
  | cons e entries ih =>
    rw [List.map_cons, prettyMembers, ih, spacedMembers]
    simp only [written, List.append_assoc, List.cons_append]
    rfl

theorem chars_cons (e : String × Int) (entries : List (String × Int)) :
    prettyChars 0 (.object ((e :: entries).map fun e => (e.1, .int e.2))) =
      '\x7b' :: (indentation 1 ++ stringChars e.1 ++ ':' :: (written e.2 ++
        (spacedMembers (indentation 1) written entries ++ (indentation 0 ++ '\x7d' :: [])))) := by
  rw [List.map_cons, prettyChars, prettyMembers_eq_spaced]
  simp only [written, List.append_assoc, List.cons_append]
  rfl

theorem readMembers_text {v : ClockValues} (fit : v.Fit) :
    ∃ cs, v.text.toList = '\x7b' :: cs ∧
      readMembers (readScalar .signed64) (cs.length + 2) true cs = .ok (v.entries, []) := by
  have each : ∀ e ∈ v.entries, ∀ rest, Ends continuesNumber rest →
      readScalar .signed64 (written e.2 ++ rest) = .ok (e.2, rest) :=
    fun e member rest ends => readScalar_written (fit e member).1 (fit e member).2 ends
  rw [ClockValues.text, Index.toJson, pretty, String.toList_ofList]
  cases entries : v.entries with
  | nil => exact ⟨['\x7d'], rfl, rfl⟩
  | cons e others =>
    refine ⟨_, chars_cons e others, ?_⟩
    rw [entries] at each
    refine readMembers_first (indentation_blank 1) (indentation_blank 0) each ?_ []
    have size := length_le_spacedMembers (indentation 1) written others
    simp only [List.length_append, List.length_cons]
    omega

/-- A document that was written is read back, names of nodes being any text. -/
theorem ofText_text {v : ClockValues} (fit : v.Fit) : ofText v.text = .ok v := by
  obtain ⟨cs, text, members⟩ := readMembers_text fit
  have plain : isBlankText v.text = false := by
    rw [isBlankText, text]
    rfl
  have read : readIndex .signed64 v.text.toList = .ok (v, []) := by
    rw [text, readIndex, skipSpace_cons (by decide), readStart_members, ok_bind]
    dsimp only
    rw [List.drop_one, List.tail_cons, List.length_cons, members, ok_bind]
    dsimp only
    rw [Index.ofList_entries]
  rw [ofText, plain, if_neg Bool.false_ne_true, parseIndex]
  simp only [read, ok_bind]
  rfl

theorem fit_ofList {entries : List (String × Int)}
    (all : ∀ e ∈ entries, leastSigned64 ≤ e.2 ∧ e.2 ≤ greatestSigned64) : Fit (.ofList entries) := by
  induction entries using List.reverseRecOn with
  | nil => exact Fit.empty
  | append_singleton entries e ih =>
    have last := all e (List.mem_append_right _ (List.mem_singleton_self e))
    have fit := ih fun d member => all d (List.mem_append_left _ member)
    rw [Index.ofList, List.foldl_append, List.foldl_cons, List.foldl_nil]
    exact fit.insert last.1 last.2 e.1

theorem readScalar_bounds {cs rest : List Char} {i : Int}
    (h : readScalar .signed64 cs = .ok (i, rest)) : leastSigned64 ≤ i ∧ i ≤ greatestSigned64 := by
  unfold readScalar at h
  obtain ⟨⟨start, after⟩, -, h⟩ := bind_eq_ok.mp h
  cases start
  all_goals
    obtain ⟨j, decoded, same⟩ := map_eq_ok.mp h
    cases same
    exact Decoder.signed64_bounds (mapError_eq_ok.mp decoded)

theorem fit_of_ofText {s : String} {v : ClockValues} (h : ofText s = .ok v) : v.Fit := by
  unfold ofText at h
  split at h
  · cases h
    exact Fit.empty
  · obtain ⟨⟨x, rest⟩, read, h⟩ := bind_eq_ok.mp (mapError_eq_ok.mp h)
    obtain ⟨-, -, h⟩ := bind_eq_ok.mp h
    cases h
    unfold readIndex at read
    obtain ⟨⟨start, after⟩, -, read⟩ := bind_eq_ok.mp read
    cases start with
    | scalar w => cases read
    | list => cases read
    | members =>
      obtain ⟨⟨ms, afterMembers⟩, members, read⟩ := bind_eq_ok.mp read
      cases read
      exact fit_ofList (readMembers_forall (fun _ _ _ => readScalar_bounds) members)

end ClockValues
end EventLedger
