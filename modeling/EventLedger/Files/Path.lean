namespace EventLedger

structure Path where
  segments : List String
deriving DecidableEq, Repr

namespace Path

def ofText (s : String) : Path := ⟨s.splitOn "/"⟩

def text (p : Path) : String := "/".intercalate p.segments

def isEmpty (p : Path) : Bool := p.text.isEmpty

theorem segments_ne_nil (p : Path) (h : ¬p.isEmpty) : p.segments ≠ [] := by
  intro empty
  simp [isEmpty, text, empty] at h

def isAbsolute (p : Path) : Bool :=
  match p.segments with
  | "" :: _ :: _ => true
  | _ => false

def isIdle (segment : String) : Bool := segment.isEmpty || segment == "."

def names (p : Path) : List String := p.segments.filter fun s => !isIdle s

def plainText (p : Path) : String := "/".intercalate p.names

def trimmed (segments : List String) : List String := (segments.reverse.dropWhile isIdle).reverse

theorem length_trimmed_le (segments : List String) :
    (trimmed segments).length ≤ segments.length := by
  have h := (List.dropWhile_suffix (l := segments.reverse) isIdle).length_le
  simpa [trimmed] using h

def parent (p : Path) : Path := ⟨trimmed (trimmed p.segments).dropLast⟩

theorem length_parent_lt (p : Path) (h : p.segments ≠ []) :
    p.parent.segments.length < p.segments.length := by
  have outer := length_trimmed_le (trimmed p.segments).dropLast
  have inner := length_trimmed_le p.segments
  have pos := List.length_pos_iff.mpr h
  simp only [List.length_dropLast] at outer
  simp only [parent]
  omega

def lastName? (p : Path) : Option String :=
  (trimmed p.segments).getLast?.filter (· != "..")

def withName (p : Path) (name : String) : Path := ⟨(trimmed p.segments).dropLast ++ [name]⟩

/-- A name without what follows its last dot; a leading dot is part of the name. -/
def stemOf (name : String) : String :=
  let reversed := name.toList.reverse
  match reversed.dropWhile (· ≠ '.') with
  | _ :: rest => if rest.isEmpty then name else String.ofList rest.reverse
  | [] => name

def extension? (p : Path) : Option String := do
  let name ← p.lastName?
  let reversed := name.toList.reverse
  match reversed.dropWhile (· ≠ '.') with
  | _ :: _ :: _ => some (String.ofList (reversed.takeWhile (· ≠ '.')).reverse)
  | _ => none

def addExtension (p : Path) (extension : String) : Path :=
  p.lastName?.elim p fun name => p.withName (name ++ "." ++ extension)

/-- The place beside this one whose name ends differently. The old ending is cut off first, so that
    a name that begins with two dots and has no others is left as the way up. -/
def withExtension (p : Path) (extension : String) : Path :=
  p.lastName?.elim p fun name =>
    if stemOf name = "." ∧ p.segments.getLast? = some name then p.withName ".."
    else p.withName (stemOf name ++ "." ++ extension)

def meansFolder (p : Path) : Bool := p.segments.getLast?.all fun s => isIdle s || s == ".."

def front (p : Path) : List String := (p.segments.reverse.dropWhile (·.isEmpty)).reverse.dropLast

def last (p : Path) : String := (p.segments.reverse.dropWhile (·.isEmpty)).headD ""

end Path
end EventLedger
