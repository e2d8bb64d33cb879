import EventLedger.Proofs.Event.RoundTrip
import EventLedger.Proofs.Json.Printable
import EventLedger.Proofs.Text.Lines
import EventLedger.Proofs.Text.Utf8
import EventLedger.Store.EventFile

/-! What is read from a file to which lines of events are appended. -/

namespace EventLedger.EventFile

open Text

variable {name : String}

/-- The bytes that events are kept in. -/
def contentOf (es : List Event) : List UInt8 := es.flatMap lineOf

/-! Lines -/

theorem printable_byte {e : Event} {b : UInt8} (member : b ∈ encodeUtf8 e.text) : 0x20 ≤ b.toNat := by
  obtain ⟨c, inText, member⟩ := List.mem_flatMap.mp member
  by_cases small : b.toNat < 0x80
  · rw [Event.text, Json.text, String.toList_ofList] at inText
    have printable := List.all_eq_true.mp (Json.printable_chars e.toJson) c inText
    rw [toNat_eq_of_mem_utf8Bytes member small]
    exact of_decide_eq_true printable
  · omega

theorem lineFeed_not_mem (e : Event) : lineFeed ∉ encodeUtf8 e.text :=
  fun member => absurd (printable_byte member) (by decide)

theorem encoded_ne_nil (e : Event) : encodeUtf8 e.text ≠ [] := by
  obtain ⟨cs, text⟩ := e.toList_text
  rw [encodeUtf8, text, List.flatMap_cons]
  exact List.append_ne_nil_of_left_ne_nil (by decide) _

/-- No carriage return stands at the end of an event. -/
theorem chompReturn_encoded (front : List UInt8) (e : Event) :
    chompReturn (front ++ encodeUtf8 e.text) = front ++ encodeUtf8 e.text := by
  rw [chompReturn, List.getLast?_append_of_ne_nil _ (encoded_ne_nil e)]
  refine if_neg fun last => ?_
  exact absurd (printable_byte (List.mem_of_getLast? last)) (by decide)

theorem lines_append_contentOf (bs : List UInt8) (e : Event) (es : List Event) :
    lines (bs ++ contentOf (e :: es)) =
      finishedLines bs ++ (unfinished bs ++ encodeUtf8 e.text) :: lines (contentOf es) := by
  have content : bs ++ contentOf (e :: es) = bs ++ encodeUtf8 e.text ++ lineFeed :: contentOf es := by
    simp [contentOf, lineOf]
  rw [content, lines_append_line (lineFeed_not_mem e), chompReturn_encoded]

theorem lines_contentOf (es : List Event) :
    lines (contentOf es) = es.map fun e => encodeUtf8 e.text := by
  induction es with
  | nil => rfl
  | cons e es ih =>
    have parts := lines_append_contentOf [] e es
    have none : finishedLines [] = [] := rfl
    have start : unfinished [] = [] := rfl
    rw [List.nil_append, none, start, List.nil_append, List.nil_append] at parts
    rw [parts, ih, List.map_cons]

/-! Events -/

theorem eventOfLine_eq_ok {number : Nat} {line : List UInt8} {x : Option Event} :
    eventOfLine name number line = .ok x ↔ ∃ s, decodeUtf8? line = some s ∧
      (isBlankText s = true ∧ x = none ∨
        isBlankText s = false ∧ ∃ e, Event.parse s = .ok e ∧ x = some e) := by
  unfold eventOfLine
  constructor
  · intro h
    split at h
    · cases h
    · rename_i s decoded
      refine ⟨s, decoded, ?_⟩
      split at h
      · rename_i blank
        cases h
        exact Or.inl ⟨blank, rfl⟩
      · rename_i plain
        split at h
        · rename_i e parsed
          cases h
          exact Or.inr ⟨Bool.eq_false_iff.mpr plain, e, parsed, rfl⟩
        · cases h
  · rintro ⟨s, decoded, ⟨blank, rfl⟩ | ⟨plain, e, parsed, rfl⟩⟩
    · simp only [decoded, blank, if_true]
    · simp only [decoded, plain, parsed, Bool.false_eq_true, if_false]

theorem eventsOfLines_append {number : Nat} {front back : List (List UInt8)} {es : List Event} :
    eventsOfLines name number (front ++ back) = .ok es ↔
      ∃ xs ys, eventsOfLines name number front = .ok xs ∧
        eventsOfLines name (number + front.length) back = .ok ys ∧ es = xs ++ ys := by
  induction front generalizing number es with
  | nil => simp [eventsOfLines]
  | cons line front ih =>
    have next : number + 1 + front.length = number + (front.length + 1) := by omega
    rw [List.cons_append, eventsOfLines, eventsOfLines, List.length_cons, ← next]
    constructor
    · intro h
      obtain ⟨x, first, h⟩ := bind_eq_ok.mp h
      obtain ⟨rest, others, h⟩ := bind_eq_ok.mp h
      cases h
      obtain ⟨xs, ys, inFront, inBack, rfl⟩ := ih.mp others
      refine ⟨x.toList ++ xs, ys, ?_, inBack, (List.append_assoc _ _ _).symm⟩
      rw [first, ok_bind, inFront, ok_bind]
    · rintro ⟨xs, ys, h, inBack, rfl⟩
      obtain ⟨x, first, h⟩ := bind_eq_ok.mp h
      obtain ⟨rest, others, h⟩ := bind_eq_ok.mp h
      cases h
      rw [first, ok_bind, ih.mpr ⟨rest, ys, others, inBack, rfl⟩, ok_bind, List.append_assoc]

theorem length_eventsOfLines {number : Nat} {ls : List (List UInt8)} {es : List Event}
    (h : eventsOfLines name number ls = .ok es) : es.length ≤ ls.length := by
  induction ls generalizing number es with
  | nil =>
    cases h
    exact Nat.le_refl 0
  | cons line ls ih =>
    obtain ⟨x, -, h⟩ := bind_eq_ok.mp h
    obtain ⟨xs, others, h⟩ := bind_eq_ok.mp h
    cases h
    have rest := ih others
    have one : x.toList.length ≤ 1 := by cases x <;> simp
    rw [List.length_append, List.length_cons]
    omega

theorem legible_of_eventsOfLines {number : Nat} {ls : List (List UInt8)} {es : List Event}
    (h : eventsOfLines name number ls = .ok es) : ∀ e ∈ es, e.Legible := by
  induction ls generalizing number es with
  | nil =>
    cases h
    exact List.forall_mem_nil _
  | cons line ls ih =>
    obtain ⟨x, first, h⟩ := bind_eq_ok.mp h
    obtain ⟨xs, others, h⟩ := bind_eq_ok.mp h
    cases h
    refine List.forall_mem_append.mpr ⟨fun e member => ?_, ih others⟩
    obtain ⟨s, -, ⟨-, none⟩ | ⟨-, e', parsed, some⟩⟩ := eventOfLine_eq_ok.mp first
    · rw [none] at member
      cases member
    · rw [some] at member
      rw [List.mem_singleton.mp member]
      exact Event.legible_of_parse parsed

/-! Appending -/

theorem isBlank_of_isSpace {c : Char} (space : Json.isSpace c = true) : isBlank c = true := by
  simp only [Json.isSpace, Bool.or_eq_true, decide_eq_true_eq] at space
  rcases space with ((rfl | rfl) | rfl) | rfl <;> decide

theorem not_isBlankText (s : String) (e : Event) : isBlankText (s ++ e.text) = false := by
  obtain ⟨cs, text⟩ := e.toList_text
  have brace : isBlank '\x7b' = false := by decide
  rw [isBlankText, String.toList_append, text, List.all_append, List.all_cons, brace, Bool.false_and,
    Bool.and_false]

section Line

variable {tail : List UInt8} {s : String} {e : Event} {number : Nat}

theorem eventOfLine_text (decoded : decodeUtf8? tail = some s)
    (spaces : ∀ c ∈ s.toList, Json.isSpace c = true) (legible : e.Legible)
    (free : e.payload.FloatFree) :
    eventOfLine name number (tail ++ encodeUtf8 e.text) = .ok (some e) :=
  eventOfLine_eq_ok.mpr ⟨s ++ e.text, decodeUtf8?_append decoded e.text,
    Or.inr ⟨not_isBlankText s e, e, Event.parse_text legible free spaces, rfl⟩⟩

/-- Behind blanks an event is only found if they are spaces of the format. -/
theorem spaces_of_eventOfLine (decoded : decodeUtf8? tail = some s) (blank : isBlankText s = true)
    {x : Option Event} (h : eventOfLine name number (tail ++ encodeUtf8 e.text) = .ok x) :
    ∀ c ∈ s.toList, Json.isSpace c = true := by
  obtain ⟨joined, decodedAll, parsed⟩ := eventOfLine_eq_ok.mp h
  rw [decodeUtf8?_append decoded e.text] at decodedAll
  cases decodedAll
  have split := List.takeWhile_append_dropWhile (p := Json.isSpace) (l := s.toList)
  cases after : s.toList.dropWhile Json.isSpace with
  | nil => exact List.dropWhile_eq_nil_iff.mp after
  | cons c rest =>
    rw [after] at split
    have gap : ∀ d ∈ s.toList.takeWhile Json.isSpace, Json.isSpace d = true :=
      fun d member => List.mem_takeWhile_imp member
    have other : Json.isSpace c = false := by
      have head := List.head_dropWhile_not Json.isSpace (l := s.toList) (by rw [after]; simp)
      simpa [after] using head
    have blankLike : isBlank c = true := by
      refine List.all_eq_true.mp blank c ?_
      rw [← split]
      simp
    obtain ⟨plain, -⟩ | ⟨-, e', parsed, -⟩ := parsed
    · rw [not_isBlankText] at plain
      cases plain
    · have text : (s ++ e.text).toList = s.toList.takeWhile Json.isSpace ++ c :: (rest ++ e.text.toList) := by
        rw [String.toList_append, ← List.cons_append, ← List.append_assoc, split]
      exact absurd parsed (Event.parse_other_blank text gap other blankLike e')

end Line

theorem decodeUtf8?_nil : decodeUtf8? [] = some "" := decodeUtf8?_encodeUtf8 ""

/-- What stands after the last line feed, if anything, is spaces. -/
def Appendable (bs : List UInt8) : Prop :=
  ∃ s, decodeUtf8? (unfinished bs) = some s ∧ ∀ c ∈ s.toList, Json.isSpace c = true

theorem take_lineOf {e : Event} {n : Nat} (short : n < (lineOf e).length) :
    (lineOf e).take n = (encodeUtf8 e.text).take n := by
  rw [lineOf, List.length_append, List.length_singleton] at short
  rw [lineOf, List.take_append_of_le_length (by omega)]

/-- Behind a line that was torn off an event can be read exactly if none of the line was written. -/
theorem appendable_torn_iff {bs : List UInt8} (before : Appendable bs) {e : Event} {n : Nat}
    (short : n < (lineOf e).length) : Appendable (bs ++ (lineOf e).take n) ↔ n = 0 := by
  obtain ⟨s, decoded, spaces⟩ := before
  have whole : lineFeed ∉ (encodeUtf8 e.text).take n := fun member =>
    lineFeed_not_mem e (List.mem_of_mem_take member)
  rw [take_lineOf short, Appendable, unfinished_append whole]
  constructor
  · rintro ⟨t, joined, spaces'⟩
    cases n with
    | zero => rfl
    | succ n =>
      -- The first byte that was written is the brace that opens the event.
      obtain ⟨cs, text⟩ := e.toList_text
      have bytes : (encodeUtf8 e.text).take (n + 1) = utf8Bytes '{' ++ (cs.flatMap utf8Bytes).take n := by
        rw [encodeUtf8, text]
        rfl
      rw [bytes, decodeUtf8?_eq_some_iff, utf8Chars_append (decodeUtf8?_eq_some_iff.mp decoded),
        utf8Chars_utf8Bytes] at joined
      have brace : some '{' ∈ t.toList.map some := by
        rw [← joined]
        simp
      obtain ⟨c, member, same⟩ := List.mem_map.mp brace
      cases same
      exact absurd (spaces' _ member) (by decide)
  · rintro rfl
    exact ⟨s, by rwa [List.take_zero, List.append_nil], spaces⟩

theorem eventsOfLines_texts {es : List Event} (kept : ∀ e ∈ es, e.Legible ∧ e.payload.FloatFree)
    (number : Nat) : eventsOfLines name number (es.map fun e => encodeUtf8 e.text) = .ok es := by
  induction es generalizing number with
  | nil => rfl
  | cons e es ih =>
    obtain ⟨⟨legible, free⟩, kept⟩ := List.forall_mem_cons.mp kept
    have first := @eventOfLine_text name [] "" e number decodeUtf8?_nil (List.forall_mem_nil _) legible free
    rw [List.nil_append] at first
    rw [List.map_cons, eventsOfLines, first, ok_bind, ih kept, ok_bind]
    rfl

/-- The events of some bytes are those of their finished lines and of what stands after these. -/
theorem ofBytes_eq_ok {bs : List UInt8} {es : List Event} :
    ofBytes name bs = .ok es ↔ ∃ front back, eventsOfLines name 1 (finishedLines bs) = .ok front ∧
      eventsOfLines name (1 + (finishedLines bs).length)
        (if unfinished bs = [] then [] else [unfinished bs]) = .ok back ∧ es = front ++ back := by
  rw [ofBytes, lines_eq_finished, eventsOfLines_append]

/-- What stands after the last line feed is blank and holds no event, or holds one. -/
theorem unfinished_cases {bs : List UInt8} {number : Nat} {back : List Event}
    (h : eventsOfLines name number (if unfinished bs = [] then [] else [unfinished bs]) = .ok back) :
    ∃ s, decodeUtf8? (unfinished bs) = some s ∧
      (isBlankText s = true ∧ back = [] ∨ isBlankText s = false ∧ back.length = 1) := by
  split at h
  · rename_i none
    cases h
    exact ⟨"", by rw [none, decodeUtf8?_nil], Or.inl ⟨rfl, rfl⟩⟩
  · obtain ⟨x, line, h⟩ := bind_eq_ok.mp h
    cases h
    obtain ⟨s, decoded, ⟨blank, rfl⟩ | ⟨plain, e, -, rfl⟩⟩ := eventOfLine_eq_ok.mp line
    · exact ⟨s, decoded, Or.inl ⟨blank, rfl⟩⟩
    · exact ⟨s, decoded, Or.inr ⟨plain, rfl⟩⟩

/-- Events that are appended are read behind those that were read before exactly if the last line was
    finished and each of them is legible. -/
theorem ofBytes_append_iff {bs : List UInt8} {held es : List Event} (before : ofBytes name bs = .ok held)
    (some : es ≠ []) (free : ∀ e ∈ es, e.payload.FloatFree) :
    ofBytes name (bs ++ contentOf es) = .ok (held ++ es) ↔ Appendable bs ∧ ∀ e ∈ es, e.Legible := by
  obtain ⟨e, es, rfl⟩ := List.exists_cons_of_ne_nil some
  obtain ⟨front, back, finished, last, rfl⟩ := ofBytes_eq_ok.mp before
  obtain ⟨s, decoded, tail⟩ := unfinished_cases last
  rw [ofBytes, lines_append_contentOf, lines_contentOf, eventsOfLines_append]
  constructor
  · rintro ⟨front', later, finished', appended, same⟩
    rw [finished] at finished'
    cases finished'
    rw [List.append_assoc] at same
    obtain rfl := List.append_cancel_left same
    have legible := legible_of_eventsOfLines appended
    obtain ⟨x, joined, h⟩ := bind_eq_ok.mp appended
    obtain ⟨others, read, h⟩ := bind_eq_ok.mp h
    -- One line gives one event at most, so none was found behind the last line feed.
    have one : x.toList.length ≤ 1 := by cases x <;> simp
    have rest := length_eventsOfLines read
    have total := congrArg List.length (Except.ok.inj h)
    rw [List.length_append, List.length_append, List.length_cons] at total
    rw [List.length_map] at rest
    obtain ⟨blank, -⟩ | ⟨-, single⟩ := tail
    · exact ⟨⟨s, decoded, spaces_of_eventOfLine decoded blank joined⟩,
        (List.forall_mem_append.mp legible).2⟩
    · omega
  · rintro ⟨⟨t, decoded', spaces⟩, legible⟩
    rw [decoded] at decoded'
    cases decoded'
    have joined := @eventOfLine_text name _ s e (1 + (finishedLines bs).length) decoded spaces
      (legible e List.mem_cons_self) (free e List.mem_cons_self)
    have others := @eventsOfLines_texts name es
      (fun x member => ⟨legible x (List.mem_cons_of_mem _ member), free x (List.mem_cons_of_mem _ member)⟩)
      (1 + (finishedLines bs).length + 1)
    have blank : isBlankText s = true :=
      List.all_eq_true.mpr fun c member => isBlank_of_isSpace (spaces c member)
    obtain ⟨-, rfl⟩ | ⟨plain, -⟩ := tail
    · refine ⟨front, e :: es, finished, ?_, by rw [List.append_nil]⟩
      rw [eventsOfLines, joined, ok_bind, others, ok_bind]
      rfl
    · rw [blank] at plain
      cases plain

end EventLedger.EventFile
