import EventLedger.Proofs.Catalog
import EventLedger.Proofs.Number.Text
import EventLedger.Proofs.Text.Quoted
import EventLedger.Proofs.Validation.Forms

/-! What is read from the words in which a payload is refused. Main statement: a field that is lacking is
told from a value that is wrong, except where the words repeat a text of the payload that itself says
that a field is missing. -/

namespace EventLedger

open Text

namespace Validation

/-- How a message begins that says that a field is missing, up to the name of the field. -/
def missingWords : List Char := "missing field ".toList

theorem missingFieldLabel_eq : missingFieldLabel = missingWords ++ ['`'] := rfl

theorem infix_of_missingField? {cs : List Char} {name : String} (read : missingField? cs = some name) :
    missingFieldLabel <:+: cs := by
  induction cs with
  | nil => cases read
  | cons c cs ih =>
    rw [missingField?] at read
    split at read
    · rename_i labelled
      simp only [Bool.and_eq_true] at labelled
      exact (List.isPrefixOf_iff_prefix.mp labelled.1.1).isInfix
    · exact List.infix_cons (ih read)

theorem missingField?_label {name rest : List Char} (nonempty : name ≠ []) (apart : '`' ∉ name) :
    missingField? (missingFieldLabel ++ (name ++ '`' :: rest)) = some (String.ofList name) := by
  have passes : ∀ c ∈ name, decide (c ≠ '`') = true := fun c member =>
    decide_eq_true fun same => apart (same ▸ member)
  have taken : (name ++ '`' :: rest).takeWhile (· ≠ '`') = name := by
    rw [List.takeWhile_append_of_pos passes, List.takeWhile_cons_of_neg (by decide), List.append_nil]
  have left : (name ++ '`' :: rest).dropWhile (· ≠ '`') = '`' :: rest := by
    rw [List.dropWhile_append_of_pos passes, List.dropWhile_cons_of_neg (by decide)]
  generalize text : missingFieldLabel ++ (name ++ '`' :: rest) = cs
  have labelled : missingFieldLabel.isPrefixOf cs = true :=
    List.isPrefixOf_iff_prefix.mpr ⟨_, text⟩
  have after : cs.drop missingFieldLabel.length = name ++ '`' :: rest := by
    rw [← text, List.drop_left]
  cases cs with
  | nil => exact absurd labelled (by decide)
  | cons c cs =>
    rw [missingField?]
    rw [after, labelled, taken, left, List.isEmpty_eq_false_iff.mpr nonempty]
    rfl

end Validation

namespace Refusal

open Validation

theorem suffix_of_endNumber? {cs rest : List Char} {n : Nat} (read : endNumber? cs = some (n, rest)) :
    rest <:+ cs := by
  obtain ⟨m, -, made⟩ := Option.bind_eq_some_iff.mp read
  cases made
  exact List.dropWhile_suffix _

theorem suffix_of_withoutEnd? {label : String} {cs rest : List Char}
    (read : withoutEnd? label cs = some rest) : rest <:+ cs := by
  unfold withoutEnd? at read
  dsimp only at read
  split at read
  · cases read
    exact List.drop_suffix _ _
  · cases read

theorem prefix_of_endPlace? {message : String} {text : List Char} {line column : Nat}
    (read : endPlace? message = some (text, line, column)) : text <+: message.toList := by
  obtain ⟨⟨c, beforeColumn⟩, columnRead, read⟩ := Option.bind_eq_some_iff.mp read
  obtain ⟨afterLine, columnLabel, read⟩ := Option.bind_eq_some_iff.mp read
  obtain ⟨⟨l, beforeLine⟩, lineRead, read⟩ := Option.bind_eq_some_iff.mp read
  obtain ⟨rest, lineLabel, made⟩ := Option.bind_eq_some_iff.mp read
  cases made
  rw [← List.reverse_suffix, List.reverse_reverse]
  exact (suffix_of_withoutEnd? lineLabel).trans <| (suffix_of_endNumber? lineRead).trans <|
    (suffix_of_withoutEnd? columnLabel).trans (suffix_of_endNumber? columnRead)

theorem not_tick_of_placeText (line column : Nat) : '`' ∉ (placeText line column).toList := by
  have digits (n : Nat) : '`' ∉ (Text.decimal n).toList := by
    rw [Text.decimal, String.toList_ofList]
    exact fun member => absurd (Text.isDigit_of_mem_decimalDigits n _ member) (by decide)
  simp only [placeText, String.toList_append, List.mem_append]
  exact fun member => member.elim (fun front => front.elim (fun words =>
    words.elim (by decide) (digits line)) (by decide)) (digits column)

/-- A place that is told in other numbers does not make a message read like a missing field. -/
theorem label_of_message {e : Refusal} (within : missingFieldLabel <:+: e.message.toList) :
    missingFieldLabel <:+: e.words.toList := by
  unfold message at within
  split at within
  · exact within
  · rename_i text line column read
    have apart : '`' ∉ (if line = 0 then "" else placeText line column).toList := by
      split
      · decide
      · exact not_tick_of_placeText line column
    rw [String.toList_append, String.toList_ofList] at within
    exact (infix_of_append_right (l := missingWords) apart within).trans
      (prefix_of_endPlace? read).isInfix

/-- Words that do not end in a digit tell no place. -/
theorem endPlace?_of_not_digit {message : String} {cs : List Char} {c : Char}
    (text : message.toList = cs ++ [c]) (other : Text.isDigit c = false) : endPlace? message = none := by
  have number : endNumber? (c :: cs.reverse) = none := by
    rw [endNumber?, List.takeWhile_cons_of_neg (by simp [other])]
    rfl
  rw [endPlace?, text, List.reverse_append, List.reverse_singleton, List.singleton_append, number]
  rfl

theorem message_missingField (name : String) :
    (missingField name).message = "missing field " ++ ticked name := by
  have ends : (missingField name).words.toList = "missing field `".toList ++ name.toList ++ ['`'] := by
    unfold words ticked
    simp only [String.toList_append, List.append_assoc]
    rfl
  rw [message, endPlace?_of_not_digit ends (by decide)]
  rfl

end Refusal

namespace Validation

theorem missingField?_message {name : String} (spelled : name ≠ "" ∧ '`' ∉ name.toList) :
    missingField? (Refusal.missingField name).message.toList = some name := by
  have nonempty : name.toList ≠ [] := fun empty => spelled.1 (String.toList_eq_nil_iff.mp empty)
  have text : (Refusal.missingField name).message.toList =
      missingFieldLabel ++ (name.toList ++ ['`']) := by
    have tick : "`".toList = ['`'] := rfl
    rw [Refusal.message_missingField, Refusal.ticked, String.toList_append, String.toList_append,
      String.toList_append, tick, missingFieldLabel_eq, List.append_assoc]
    rfl
  rw [text, missingField?_label nonempty spelled.2, String.ofList_toList]

end Validation

namespace Refusal

open Validation

/-- The text of the payload that the words of a refusal repeat. -/
def text? : Refusal → Option String
  | .wrongType (.string s) _ | .wrongValue (.string s) _ => some s
  | .unknownVariant name _ => some name
  | .unknownLane raw => some raw
  | _ => none

theorem label_of_append {pre cs : List Char} (apart : 'm' ∉ pre)
    (within : missingFieldLabel <:+: pre ++ cs) : missingFieldLabel <:+: cs :=
  infix_of_append (l := "issing field `".toList) apart within

/-- Of all values only a text is described in words that can read like a missing field. -/
theorem describe_label {v : Json} (within : missingFieldLabel <:+: (describe v).toList) :
    ∃ s, v = .string s ∧ missingWords <:+: s.toList := by
  have letter : 'm' ∈ (describe v).toList := within.subset (by decide)
  have framed {cs : List Char} (before after : String) (numeral : ∀ c ∈ cs, Number.isNumeral c = true)
      (hb : 'm' ∉ before.toList) (ha : 'm' ∉ after.toList) :
      'm' ∉ (before ++ String.ofList cs ++ after).toList := by
    rw [String.toList_append, String.toList_append, String.toList_ofList, List.mem_append,
      List.mem_append]
    exact not_or.mpr ⟨not_or.mpr ⟨hb, fun member => absurd (numeral 'm' member) (by decide)⟩, ha⟩
  cases v with
  | null => exact absurd letter (by decide)
  | bool b => cases b <;> exact absurd letter (by decide)
  | number n =>
    have numeral := n.isNumeral_of_mem_chars
    cases n with
    | integer i =>
      exact absurd letter (framed "integer `" "`" numeral (by decide) (by decide))
    | float x =>
      exact absurd letter (framed "floating point `" "`" numeral (by decide) (by decide))
  | string s =>
    have text : (describe (.string s)).toList =
        "string \"".toList ++ (s.toList.flatMap quotedChar ++ ['"']) := by
      change ("string " ++ Text.quoted s).toList = _
      simp only [String.toList_append, Text.quoted, String.toList_ofList]
      rfl
    rw [text] at within
    have quoted : missingFieldLabel <:+: s.toList.flatMap quotedChar :=
      infix_of_append_right (l := missingWords) (by decide) (label_of_append (by decide) within)
    have said : missingFieldLabel <:+: s.toList :=
      infix_of_quoted (l := "issing field `".toList) (by decide) quoted
    exact ⟨s, rfl, (List.prefix_append _ _).isInfix.trans said⟩
  | array vs => exact absurd letter (by decide : 'm' ∉ "sequence".toList)
  | object ms =>
    have tick : '`' ∈ "map".toList := within.subset (by decide)
    exact absurd tick (by decide)

theorem expected_label (lead : String) {expected : String} {v : Json} (apart : 'm' ∉ lead.toList)
    (worded : '`' ∉ expected.toList)
    (within : missingFieldLabel <:+: (lead ++ describe v ++ ", expected " ++ expected).toList) :
    ∃ s, v = .string s ∧ missingWords <:+: s.toList := by
  rw [String.toList_append, String.toList_append, String.toList_append] at within
  have described : missingFieldLabel <:+: lead.toList ++ (describe v).toList :=
    infix_of_append_right (l := missingWords) (by decide)
      (infix_of_append_right (l := missingWords) worded within)
  exact describe_label (label_of_append apart described)

/-- A refusal of a value reads like a missing field only through a text that it repeats. -/
theorem Plain.repeats {e : Refusal} (plain : e.Plain) {name : String}
    (read : missingField? e.message.toList = some name) :
    ∃ text, e.text? = some text ∧ missingWords <:+: text.toList := by
  have within : missingFieldLabel <:+: e.words.toList := label_of_message (infix_of_missingField? read)
  cases e with
  | wrongType v expected =>
    obtain ⟨s, rfl, said⟩ := expected_label "invalid type: " (by decide) plain within
    exact ⟨s, rfl, said⟩
  | wrongValue v expected =>
    obtain ⟨s, rfl, said⟩ := expected_label "invalid value: " (by decide) plain within
    exact ⟨s, rfl, said⟩
  | wrongLength n expected =>
    have text : (wrongLength n expected).words.toList =
        "invalid length ".toList ++ Text.decimalDigits n ++ ", expected ".toList ++ expected.toList := by
      unfold words Text.decimal
      simp only [String.toList_append, String.toList_ofList]
    have tick : '`' ∈ (wrongLength n expected).words.toList := within.subset (by decide)
    rw [text, List.mem_append, List.mem_append, List.mem_append] at tick
    rcases tick with ((lead | digits) | words) | last
    · exact absurd lead (by decide)
    · exact absurd (Text.isDigit_of_mem_decimalDigits n _ digits) (by decide)
    · exact absurd words (by decide)
    · exact absurd last plain
  | unknownVariant name choices =>
    have text : (unknownVariant name choices).words.toList = "unknown variant `".toList ++
        (name.toList ++ '`' :: (", ".toList ++ (choicesText choices).toList)) := by
      unfold words ticked
      simp only [String.toList_append, List.append_assoc]
      rfl
    rw [text] at within
    -- The tick that closes the name can also end the words, so not all of them need stand in the name.
    rcases infix_of_stop (l := missingWords) (by decide) (label_of_append (by decide) within) with
      said | later
    · exact ⟨name, rfl, said⟩
    · exact absurd (label_of_append (by decide) later) plain
  | unknownLane raw =>
    have text : (unknownLane raw).words.toList = "[UnknownLane] Unknown lane: ".toList ++ raw.toList := by
      unfold words laneMessage
      simp only [String.toList_append, ← List.append_assoc]
      rfl
    rw [text] at within
    exact ⟨raw, rfl, (List.prefix_append _ _).isInfix.trans (label_of_append (by decide) within)⟩
  | missingField name => exact plain.elim
  | duplicateField name => exact plain.elim
  | rule message => exact plain.elim

end Refusal

namespace Validation

variable {k : Kind} {v : Json} {e : Refusal} {name : String}

theorem payload_accepted {p : Payload} (decoded : Payload.decode k v = .ok p) : payload k.name v = [] := by
  unfold payload
  rw [Kind.ofName?_name]
  dsimp only
  rw [decoded]

theorem payload_refused (refused : Payload.decode k v = .error e) :
    payload k.name v = [ofRefusal e] := by
  unfold payload
  rw [Kind.ofName?_name]
  dsimp only
  rw [refused]

theorem ofRefusal_of_read (read : missingField? e.message.toList = some name) :
    ofRefusal e = ⟨"payload." ++ name, .required, e.message⟩ := by
  unfold ofRefusal
  rw [read]

theorem ofRefusal_of_unread (unread : missingField? e.message.toList = none) :
    ofRefusal e = ⟨"payload", .invalidValue, e.message⟩ := by
  unfold ofRefusal
  rw [unread]

theorem read_of_required {message : String}
    (required : ofRefusal e = ⟨"payload." ++ name, .required, message⟩) :
    missingField? e.message.toList = some name := by
  cases read : missingField? e.message.toList with
  | none =>
    rw [ofRefusal_of_unread read] at required
    have kinds : ViolationKind.invalidValue = .required := congrArg Violation.kind required
    cases kinds
  | some name' =>
    rw [ofRefusal_of_read read] at required
    have fields : "payload." ++ name' = "payload." ++ name := congrArg Violation.field required
    rw [String.append_right_inj] at fields
    rw [fields]

/-- A field is reported as required only where the kind requires it and the payload lacks it, and a
    payload that has all it needs and is refused is reported for a value. -/
structure ToldApart (k : Kind) (v : Json) : Prop where
  required : ∀ name message, ⟨"payload." ++ name, .required, message⟩ ∈ payload k.name v →
    k.Requires name ∧ k.given? v name = none
  invalid : (∀ name, k.Requires name → (k.given? v name).isSome) →
    ∀ e, Payload.decode k v = .error e → payload k.name v = [⟨"payload", .invalidValue, e.message⟩]

/-- What is read from a refusal that repeats no text is so. -/
theorem read_cases (refused : Payload.decode k v = .error e)
    (read : missingField? e.message.toList = some name) :
    (k.Requires name ∧ k.given? v name = none) ∨
      ∃ text, e.text? = some text ∧ missingWords <:+: text.toList := by
  rcases Payload.decode_refused refused with plain | ⟨field, rfl, spelled, required, absent⟩
  · exact .inr (plain.repeats read)
  · rw [missingField?_message spelled] at read
    cases read
    exact .inl ⟨required, absent⟩

/-- A field that is lacking is told from a value that is wrong exactly where no refusal repeats a text of
    the payload that is read as a missing field when none of that name is lacking. Only a text that says
    so is read so. -/
theorem told_apart_unless_repeated (k : Kind) (v : Json) :
    (ToldApart k v ↔ ∀ e text name, Payload.decode k v = .error e → e.text? = some text →
      missingField? e.message.toList = some name → k.Requires name ∧ k.given? v name = none) ∧
    ∀ e text name, Payload.decode k v = .error e → e.text? = some text →
      missingField? e.message.toList = some name → "missing field ".toList <:+: text.toList := by
  refine ⟨⟨fun told e text name refused _ read => ?_, fun lacking => ?_⟩,
    fun e text name refused repeats read => ?_⟩
  · refine told.required name e.message ?_
    rw [payload_refused refused, ofRefusal_of_read read]
    exact List.mem_singleton_self _
  · have lacks {e : Refusal} {name : String} (refused : Payload.decode k v = .error e)
        (read : missingField? e.message.toList = some name) :
        k.Requires name ∧ k.given? v name = none := by
      rcases read_cases refused read with so | ⟨text, repeats, -⟩
      · exact so
      · exact lacking e text name refused repeats read
    constructor
    · intro name message reported
      cases refused : Payload.decode k v with
      | ok p =>
        rw [payload_accepted refused] at reported
        cases reported
      | error e =>
        rw [payload_refused refused, List.mem_singleton] at reported
        exact lacks refused (read_of_required reported.symm)
    · intro complete e refused
      rw [payload_refused refused]
      cases read : missingField? e.message.toList with
      | none => rw [ofRefusal_of_unread read]
      | some name =>
        obtain ⟨required, absent⟩ := lacks refused read
        have given := complete name required
        rw [absent] at given
        cases given
  · rcases Payload.decode_refused refused with plain | ⟨field, rfl, -⟩
    · obtain ⟨text', repeats', said⟩ := plain.repeats read
      rw [repeats] at repeats'
      cases repeats'
      exact said
    · cases repeats

def strayMove (lane : String) : Json :=
  .object [("actor", .string "a"), ("feature_slug", .string "x"), ("from_lane", .string lane),
    ("to_lane", .string "claimed"), ("wp_id", .string "WP01")]

theorem strayMove_refused {lane : String} (unknown : Lane.ofName? lane = none) :
    Payload.decode .wpStatusChanged (strayMove lane) = .error (.unknownLane lane) := by
  have stray : Lane.decoder.check (.string lane) = .error (.unknownLane lane) := by
    unfold Decoder.check Lane.decoder
    rw [Decoder.string, ok_bind, unknown]
    rfl
  -- The members before it pass, and those after it are not looked at.
  have checked : Payload.WpStatusChanged.record.checkMembers
      [("actor", .string "a"), ("feature_slug", .string "x"), ("from_lane", .string lane),
        ("to_lane", .string "claimed"), ("wp_id", .string "WP01")] =
      Lane.decoder.check (.string lane) >>= fun _ => Payload.WpStatusChanged.record.checkMembers
        [("to_lane", .string "claimed"), ("wp_id", .string "WP01")] := rfl
  rw [Payload.decode, strayMove, Record.decode, checked, stray]
  rfl

/-- A move out of a lane that is merely unknown is reported for its value. -/
theorem told_apart_unless_repeated_archived :
    ToldApart .wpStatusChanged (strayMove "archived") ∧
      "missing field ".toList <:+: "missing field `actor`".toList := by
  have unknown : Lane.ofName? "archived" = none := by decide +kernel
  have unread : missingField? (Refusal.unknownLane "archived").message.toList = none := by decide +kernel
  constructor
  · refine (told_apart_unless_repeated _ _).1.mpr fun e text name refused _ read => ?_
    rw [strayMove_refused unknown] at refused
    cases refused
    rw [unread] at read
    cases read
  · exact (told_apart_unless_repeated .wpStatusChanged (strayMove "missing field `actor`")).2
      (.unknownLane "missing field `actor`") "missing field `actor`" "actor"
      (strayMove_refused (by decide +kernel)) rfl (by decide +kernel)

/-- The actor is given, and only the lane is wrong. -/
theorem stray_move_reported_for_actor :
    payload "WPStatusChanged" (strayMove "missing field `actor`") =
        [⟨"payload.actor", .required, "[UnknownLane] Unknown lane: missing field `actor`"⟩] ∧
      Kind.wpStatusChanged.given? (strayMove "missing field `actor`") "actor" = some (.string "a") ∧
      ¬ ToldApart .wpStatusChanged (strayMove "missing field `actor`") := by
  have reported : payload "WPStatusChanged" (strayMove "missing field `actor`") =
      [⟨"payload.actor", .required, "[UnknownLane] Unknown lane: missing field `actor`"⟩] := by
    decide +kernel
  have given : Kind.wpStatusChanged.given? (strayMove "missing field `actor`") "actor" =
      some (.string "a") := rfl
  refine ⟨reported, given, fun told => ?_⟩
  have listed : ⟨"payload.actor", .required, "[UnknownLane] Unknown lane: missing field `actor`"⟩ ∈
      payload "WPStatusChanged" (strayMove "missing field `actor`") := by
    rw [reported]
    exact List.mem_singleton_self _
  have absent := (told.required "actor" _ listed).2
  rw [given] at absent
  cases absent

end Validation
end EventLedger
