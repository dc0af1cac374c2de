import SheetPricing.Service.Form
import SheetPricing.Service.HeaderValue

/-!
# Forms in parts

The parts of a form stand between lines with a boundary. A part begins with headers, one of which
gives its name, and the name of a file if it is one; after an empty line follow the octets of the
text or of the file. A part that is not finished does not count.
-/
namespace SheetPricing.Service.Form.Multipart

/-- Why reading stops: the octets end, or they are no form. -/
inductive Stop where
  | unfinished
  | fault (fault : FormFault)

/-- What follows the given octets. -/
def expect : List Char → List Char → Except Stop (List Char)
  | [], cs => .ok cs
  | _, [] => .error .unfinished
  | e :: expected, c :: cs => if e = c then expect expected cs else .error (.fault .malformed)

/-- What every boundary stands behind. -/
def mark : List Char := ['-', '-']

def lineBreak : List Char := ['\r', '\n']

/-- What may follow a boundary: another part, or nothing. -/
inductive Continuation where
  | part (rest : List Char)
  | last

/-- What follows the first boundary. -/
def afterBoundary : List Char → Except Stop Continuation
  | '-' :: rest => (expect ['-'] rest).map fun _ => .last
  | cs => (expect lineBreak cs).map .part

/-- A character of the name of a header. -/
def isToken (c : Char) : Bool := c.isAlphanum || "!#$%&'*+-.^_\x60|~".toList.contains c

/-- A header with its line break, and what follows. -/
def readHeader (cs : List Char) : Except Stop (Parameter × List Char) :=
  let name := cs.takeWhile isToken
  match cs.dropWhile isToken with
  | [] => .error .unfinished
  | c :: rest =>
    if c ≠ ':' ∨ name.isEmpty then .error (.fault .malformed)
    else
      let value := rest.dropWhile (· = ' ')
      let header := (String.ofList (name.map Char.toLower), value.takeWhile (· ≠ '\r'))
      (expect lineBreak (value.dropWhile (· ≠ '\r'))).map fun after => (header, after)

theorem length_of_expect {expected cs rest : List Char} (read : expect expected cs = .ok rest) :
    rest.length ≤ cs.length := by
  fun_induction expect expected cs with
  | case1 => simp_all
  | case2 => simp at read
  | case3 _ _ _ ih => have := ih read; simp; omega
  | case4 => simp at read

theorem length_dropWhile_le (p : Char → Bool) (cs : List Char) :
    (cs.dropWhile p).length ≤ cs.length :=
  (List.dropWhile_suffix p).length_le

theorem length_of_readHeader {cs rest : List Char} {header : Parameter}
    (read : readHeader cs = .ok (header, rest)) : rest.length < cs.length := by
  have named := length_dropWhile_le isToken cs
  unfold readHeader at read
  split at read
  · contradiction
  · next c value found =>
    dsimp only at read
    split at read
    · contradiction
    · simp only [Except.map] at read
      split at read
      · contradiction
      · next after expected =>
        have bound := length_of_expect expected
        have skipped := length_dropWhile_le (· = ' ') value
        have valued := length_dropWhile_le (· ≠ '\r') (value.dropWhile (· = ' '))
        simp only [Except.ok.injEq, Prod.mk.injEq] at read
        rw [found] at named
        rw [← read.2]
        simp only [List.length_cons] at named
        omega

/-- The headers of a part and the empty line behind them, and what follows. -/
def readHeaders (cs : List Char) : Except Stop (List Parameter × List Char) :=
  match cs with
  | '\r' :: rest => (expect ['\n'] rest).map fun after => ([], after)
  | cs =>
    match read : readHeader cs with
    | .error stop => .error stop
    | .ok (header, rest) =>
      have := length_of_readHeader read
      (readHeaders rest).map fun (headers, after) => (header :: headers, after)
termination_by cs.length

/-- The octets in front of a boundary, and what follows it; `found` are those that are read, from
the last to the first. -/
def readOctets (boundary found : List Char) : List Char → Except Stop (List Char × Continuation)
  | [] => .error .unfinished
  | c :: rest =>
    let behind := (c :: rest).drop boundary.length
    if boundary.isPrefixOf (c :: rest) ∧ lineBreak.isPrefixOf behind then
      .ok (found.reverse, .part (behind.drop lineBreak.length))
    else if boundary.isPrefixOf (c :: rest) ∧ mark.isPrefixOf behind then
      .ok (found.reverse, .last)
    else readOctets boundary (c :: found) rest


theorem length_of_readHeaders {cs rest : List Char} {headers : List Parameter}
    (read : readHeaders cs = .ok (headers, rest)) : rest.length < cs.length := by
  fun_induction readHeaders cs generalizing headers rest with
  | case1 after =>
    simp only [Except.map] at read
    split at read
    · contradiction
    · next found =>
      have := length_of_expect found
      simp only [Except.ok.injEq, Prod.mk.injEq] at read
      simp only [List.length_cons, ← read.2]
      omega
  | case2 => contradiction
  | case3 cs _ header after found shorter ih =>
    simp only [Except.map] at read
    split at read
    · contradiction
    · next more found =>
      have := ih found
      simp only [Except.ok.injEq, Prod.mk.injEq] at read
      rw [← read.2]
      omega

theorem length_of_readOctets {boundary found cs octets rest : List Char}
    (read : readOctets boundary found cs = .ok (octets, .part rest)) : rest.length < cs.length := by
  fun_induction readOctets boundary found cs with
  | case1 => contradiction
  | case2 found c after behind fits =>
    simp only [Except.ok.injEq, Prod.mk.injEq, Continuation.part.injEq] at read
    simp only [← read.2, behind, lineBreak, List.length_drop, List.length_cons]
    omega
  | case3 => simp at read
  | case4 _ _ _ _ _ _ ih =>
    have := ih read
    simp only [List.length_cons]
    omega

variable {β : Type}

/-- How the parts of a form are read: the boundary, the character set of their texts, and what
octets are as a file. -/
structure Layout (β : Type) where
  boundary : List Char
  charset : List Char
  file : List Nat → β

/-- What stands before each boundary but the first, and the boundary. -/
def Layout.delimiter (layout : Layout β) : List Char := lineBreak ++ mark ++ layout.boundary

/-- The name of a part, and the name of its file, as its headers give them. -/
def names? (headers : List Parameter) : Option (List Char × Option (List Char)) := do
  let disposition ← headers.reverse.lookup "content-disposition"
  let name ← HeaderValue.parameter? disposition "name"
  return (name, (HeaderValue.parameter? disposition "filename").map HeaderValue.fileName)

/-- A form with one part more. -/
def add (layout : Layout β) (form : Form β) (name : List Char) (file : Option (List Char))
    (octets : List Char) : Except FormFault (Form β) := do
  let part : Part β := match file with
    | some fileName => .file (decoded layout.charset fileName) (layout.file (octets.map Char.toNat))
    | none => .text (decoded layout.charset octets)
  let form ← (form.push (decoded layout.charset name) part).checked
  if file.isNone ∧ 1024 * mostUnits < octets.length then throw .partTooLarge else return form

/-- Read the part behind a boundary. -/
def readPart (layout : Layout β) (form : Form β) (cs : List Char) :
    Except Stop (Form β × Continuation) :=
  match readHeaders cs with
  | .error stop => .error stop
  | .ok (headers, rest) =>
    match names? headers with
    | none => .error (.fault .namelessPart)
    | some (name, file) =>
      match readOctets layout.delimiter [] rest with
      | .error stop => .error stop
      | .ok (octets, next) =>
        match add layout form name file octets with
        | .error fault => .error (.fault fault)
        | .ok form => .ok (form, next)

theorem length_of_readPart {layout : Layout β} {form after : Form β} {cs rest : List Char}
    (read : readPart layout form cs = .ok (after, .part rest)) : rest.length < cs.length := by
  unfold readPart at read
  split at read
  · contradiction
  · next headed =>
    split at read
    · contradiction
    · split at read
      · contradiction
      · next found =>
        split at read
        · contradiction
        · have first := length_of_readHeaders headed
          simp only [Except.ok.injEq, Prod.mk.injEq] at read
          rw [read.2] at found
          have second := length_of_readOctets found
          omega

/-- Read the parts behind a boundary. -/
def readParts (layout : Layout β) (form : Form β) (cs : List Char) : Except FormFault (Form β) :=
  match read : readPart layout form cs with
  | .error .unfinished => .ok form
  | .error (.fault fault) => .error fault
  | .ok (form, .last) => .ok form
  | .ok (form, .part rest) =>
    have := length_of_readPart read
    readParts layout form rest
termination_by cs.length

/-- The form that octets write. Line breaks may stand before its first boundary. -/
def read (layout : Layout β) (cs : List Char) : Except FormFault (Form β) :=
  let written := cs.dropWhile fun c => c = '\r' || c = '\n'
  match expect (mark ++ layout.boundary) written >>= afterBoundary with
  | .error .unfinished => .ok .empty
  | .error (.fault fault) => .error fault
  | .ok .last => .ok .empty
  | .ok (.part rest) => readParts layout .empty rest

/-- Take up a part whose file is at hand. -/
def receivePart (layout : Layout β) (form : Form β) (part : String × Part β) :
    Except FormFault (Form β) :=
  let name := HeaderValue.octets part.1
  match part.2 with
  | .text value => add layout form name none (HeaderValue.octets value)
  | .file fileName data =>
    let octets := HeaderValue.fileName (HeaderValue.octets fileName)
    (form.push (decoded layout.charset name) (.file (decoded layout.charset octets) data)).checked

/-- The form that is read where parts are written with the boundary of the layout. -/
def receive (layout : Layout β) (form : Form β) : Except FormFault (Form β) :=
  form.parts.foldlM (receivePart layout) .empty

end SheetPricing.Service.Form.Multipart
