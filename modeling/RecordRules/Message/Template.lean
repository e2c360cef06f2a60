import RecordRules.Text.Letter
import RecordRules.Text.Quoted
import RecordRules.Number.Integer

/-!
# Message templates

A template is a text with named slots in braces; braces that are doubled stand for themselves. A slot
may pick a character by its place, as in `x[0]`, ask for quotation marks with `!r`, and be padded or
cut by a layout after a colon. `Template.format` fills the slots in one pass from left to right and
stops at the first thing it cannot make sense of.
-/

namespace RecordRules

/-- What a template cannot be formatted for. -/
inductive TemplateFault
  | loneClose
  | loneOpen
  | openInName
  | missingConversion
  | missingColon
  | openLayout
  | openSlot
  | positional
  | tooManyDigits
  | afterBracket
  | emptyAccess
  | openBracket
  | beyondEnd
  | nestedTooDeeply
  | unknownConversion (c : Char)
  | badLayout (layout : String)
  | unknownLayoutKind (c : Char)
  | missingPrecision
  | signed
  | spaced
  | zeroCoerced
  | alternate
  | signAligned
  | grouped (separator kind : Char)
  | groupedTwice
  | noAttribute (name : String)
  | namedPlace
  deriving DecidableEq, Repr

namespace TemplateFault

/-- The hexadecimal code of a character after a backslash and `x`. -/
def escapedCode (c : Char) : String := "\\x" ++ String.ofList (Nat.toDigits 16 c.toNat)

/-- A character as it is shown between quotes: itself if it is printable in ASCII, else its code. -/
def shownChar (c : Char) : String :=
  if 0x20 < c.toNat && c.toNat < 0x80 then c.toString else escapedCode c

/-- The wording of a fault. -/
def message : TemplateFault → String
  | loneClose => "Single '\x7d' encountered in format string"
  | loneOpen => "Single '\x7b' encountered in format string"
  | openInName => "unexpected '\x7b' in field name"
  | missingConversion => "end of string while looking for conversion specifier"
  | missingColon => "expected ':' after conversion specifier"
  | openLayout => "unmatched '\x7b' in format spec"
  | openSlot => "expected '\x7d' before end of string"
  | positional => "Format string contains positional fields"
  | tooManyDigits => "Too many decimal digits in format string"
  | afterBracket => "Only '.' or '[' may follow ']' in format field specifier"
  | emptyAccess => "Empty attribute in format string"
  | openBracket => "Missing ']' in format string"
  | beyondEnd => "string index out of range"
  | nestedTooDeeply => "Max string recursion exceeded"
  | unknownConversion c =>
    "Unknown conversion specifier " ++
      (if 0x20 < c.toNat && c.toNat < 0x7f then c.toString else escapedCode c)
  | badLayout layout => s!"Invalid format specifier '{layout}' for object of type 'str'"
  | unknownLayoutKind c => s!"Unknown format code '{shownChar c}' for object of type 'str'"
  | missingPrecision => "Format specifier missing precision"
  | signed => "Sign not allowed in string format specifier"
  | spaced => "Space not allowed in string format specifier"
  | zeroCoerced => "Negative zero coercion (z) not allowed in string format specifier"
  | alternate => "Alternate form (#) not allowed in string format specifier"
  | signAligned => "'=' alignment not allowed in string format specifier"
  | grouped separator kind => s!"Cannot specify '{separator}' with '{shownChar kind}'."
  | groupedTwice => "Cannot specify both ',' and '_'."
  | noAttribute name => s!"'str' object has no attribute '{name}'"
  | namedPlace => "string indices must be integers, not 'str'"

/-- True of the faults for which another template is tried. What asks a text for something that no
text has is not among them. -/
def isRecoverable : TemplateFault → Bool
  | noAttribute _ | namedPlace => false
  | _ => true

end TemplateFault

namespace Template

/-! ## Layout -/

/-- Where a text stands in a wider column. -/
inductive Alignment
  | left
  | right
  | center
  | sign
  deriving DecidableEq, Repr

/-- The alignment of a sign. -/
def alignment? : Char → Option Alignment
  | '<' => some .left
  | '>' => some .right
  | '^' => some .center
  | '=' => some .sign
  | _ => none

/-- The layout of a text: the least width, the character that fills it up, the alignment, and the
most characters of the text that are shown. -/
structure Layout where
  fill : Char := ' '
  alignment : Alignment := .left
  width : Nat := 0
  precision : Option Nat := none

/-- The greatest number in a layout or a place. -/
def numberLimit : Nat := 0x7fffffffffffffff

/-- Reads decimal digits of any script; no digits are no number. -/
def readNumber (s : List Char) : Except TemplateFault (Option Nat × List Char) :=
  let digits := s.takeWhile Text.isDecimalDigit
  let value := Number.ofDigits (digits.filterMap Text.digitValue?)
  if digits.isEmpty then .ok (none, s)
  else if numberLimit < value then .error .tooManyDigits
  else .ok (some value, s.drop digits.length)

/-- Skips a character at the start of a text and tells whether it was there. -/
def skip (c : Char) : List Char → Bool × List Char
  | d :: rest => if d = c then (true, rest) else (false, d :: rest)
  | [] => (false, [])

/-- The fill character and the alignment at the start of a layout, and the rest. -/
def readAlignment : List Char → Option Char × Option Alignment × List Char
  | c :: d :: rest =>
    match alignment? d with
    | some a => (some c, some a, rest)
    | none =>
      match alignment? c with
      | some a => (none, some a, d :: rest)
      | none => (none, none, c :: d :: rest)
  | [c] =>
    match alignment? c with
    | some a => (none, some a, [])
    | none => (none, none, [c])
  | [] => (none, none, [])

/-- The separator of digit groups, if one is given, and the rest. -/
def readGrouping (s : List Char) : Except TemplateFault (Option Char × List Char) :=
  let (comma, s) := skip ',' s
  let (underscore, s) := skip '_' s
  if underscore && (comma || s.head? = some ',') then .error .groupedTwice
  else if underscore then .ok (some '_', s)
  else if comma then .ok (some ',', s)
  else .ok (none, s)

/-- The precision after a point, and the rest. -/
def readPrecision (s : List Char) : Except TemplateFault (Option Nat × List Char) := do
  let (point, s) := skip '.' s
  if !point then return (none, s)
  else
    match ← readNumber s with
    | (none, _) => throw .missingPrecision
    | (some n, s) => return (some n, s)

/-- Separators of digit groups go with the kinds of numbers only. -/
def checkGrouping (grouping : Option Char) (kind : Char) : Except TemplateFault Unit :=
  match grouping with
  | none => .ok ()
  | some separator =>
    if "deEfFgG%".toList.contains kind || (separator = '_' && "boxX".toList.contains kind) then
      .ok ()
    else .error (.grouped separator kind)

/-- The kind of value that the end of a layout names; texts need not be named. -/
def kind? : List Char → Option Char
  | [] => some 's'
  | [c] => some c
  | _ => none

/-- A layout for texts names no other kind and has nothing that is for numbers only. -/
def checkForText (kind : Char) (sign : Option Char) (coerced alternate : Bool)
    (alignment : Option Alignment) : Except TemplateFault Unit :=
  if kind ≠ 's' then .error (.unknownLayoutKind kind)
  else if sign = some ' ' then .error .spaced
  else if sign.isSome then .error .signed
  else if coerced then .error .zeroCoerced
  else if alternate then .error .alternate
  else if alignment = some .sign then .error .signAligned
  else .ok ()

/-- Reads a layout, which must be one for texts. -/
def readLayout (text : List Char) : Except TemplateFault Layout := do
  let (fill, alignment, s) := readAlignment text
  let isSign (c : Char) := c == ' ' || c == '+' || c == '-'
  let sign := s.head?.filter isSign
  let s := if sign.isSome then s.drop 1 else s
  let (coerced, s) := skip 'z' s
  let (alternate, s) := skip '#' s
  let (zero, s) := if fill.isNone then skip '0' s else (false, s)
  let (width, s) ← readNumber s
  let (grouping, s) ← readGrouping s
  let (precision, s) ← readPrecision s
  match kind? s with
  | none => throw (.badLayout (.ofList text))
  | some kind =>
    checkGrouping grouping kind
    checkForText kind sign coerced alternate alignment
    return ⟨fill.getD (if zero then '0' else ' '), alignment.getD .left, width.getD 0, precision⟩

/-- Lays out a text. -/
def Layout.apply (l : Layout) (text : List Char) : List Char :=
  let shown := match l.precision with
    | some n => text.take n
    | none => text
  let room := l.width - shown.length
  let before := match l.alignment with
    | .right => room
    | .center => room / 2
    | .left | .sign => 0
  List.replicate before l.fill ++ shown ++ List.replicate (room - before) l.fill

/-! ## Pieces -/

/-- A piece of a template: a literal text, a slot, or a place that cannot be made sense of. -/
inductive Piece
  | literal (text : List Char)
  | slot (name : List Char) (conversion : Option Char) (layout : List Char)
  | malformed (fault : TemplateFault)
  deriving Repr

/-- The name of a slot and what follows it. Brackets in a name hide what is between them. -/
def readName (bracketed : Bool) : List Char → List Char × List Char
  | [] => ([], [])
  | c :: rest =>
    if bracketed then
      let (name, after) := readName (c ≠ ']') rest
      (c :: name, after)
    else if c = '\x7d' || c = ':' || c = '!' || c = '\x7b' then ([], c :: rest)
    else
      let (name, after) := readName (c = '[') rest
      (c :: name, after)

/-- The layout up to the brace that closes the slot, and what follows that brace; `depth` counts
the braces that are open inside. -/
def readLayoutText (depth : Nat) : List Char → Option (List Char × List Char)
  | [] => none
  | c :: rest =>
    if c = '\x7d' then
      match depth with
      | 0 => some ([], rest)
      | n + 1 => (readLayoutText n rest).map fun (layout, after) => (c :: layout, after)
    else
      (readLayoutText (if c = '\x7b' then depth + 1 else depth) rest).map
        fun (layout, after) => (c :: layout, after)

/-- The slot with a layout. -/
def layoutSlot (name : List Char) (conversion : Option Char) (s : List Char) :
    Except TemplateFault (Piece × List Char) :=
  match readLayoutText 0 s with
  | none => .error .openLayout
  | some (layout, after) => .ok (.slot name conversion layout, after)

/-- The slot after the mark of a conversion, which is one character. -/
def conversionSlot (name : List Char) : List Char → Except TemplateFault (Piece × List Char)
  | [] => .error .missingConversion
  | [_] => .error .openLayout
  | c :: d :: after =>
    if d = '\x7d' then .ok (.slot name (some c) [], after)
    else if d = ':' then layoutSlot name (some c) after
    else .error .missingColon

/-- The slot after its opening brace, and the rest of the template. -/
def readSlot (s : List Char) : Except TemplateFault (Piece × List Char) :=
  let (name, rest) := readName false s
  match rest with
  | [] => .error .openSlot
  | c :: after =>
    if c = '\x7d' then .ok (.slot name none [], after)
    else if c = ':' then layoutSlot name none after
    else if c = '!' then conversionSlot name after
    else .error .openInName

/-- The pieces of a template; `fuel` bounds their number. -/
def piecesWithin : (fuel : Nat) → List Char → List Piece
  | 0, _ => []
  | _, [] => []
  | fuel + 1, '\x7b' :: '\x7b' :: rest => .literal ['\x7b'] :: piecesWithin fuel rest
  | fuel + 1, '\x7d' :: '\x7d' :: rest => .literal ['\x7d'] :: piecesWithin fuel rest
  | fuel + 1, c :: rest =>
    if c = '\x7d' then [.malformed .loneClose]
    else if c = '\x7b' then
      if rest.isEmpty then [.malformed .loneOpen]
      else
        match readSlot rest with
        | .error fault => [.malformed fault]
        | .ok (piece, after) => piece :: piecesWithin fuel after
    else .literal [c] :: piecesWithin fuel rest

/-- The pieces of a template. -/
def pieces (s : List Char) : List Piece := piecesWithin s.length s

/-! ## Filling slots -/

/-- Follows the accesses after the name of a slot; `fuel` bounds their number. The characters of a
text are found by place. Texts count as having no attributes: those that they have are methods and
the like, and where a method is kept in memory would be part of its text. -/
def access : (fuel : Nat) → List Char → List Char → Except TemplateFault (List Char)
  | _, text, [] => .ok text
  | 0, text, _ => .ok text
  | fuel + 1, text, c :: rest =>
    if c = '.' then
      match rest.takeWhile fun d => d ≠ '.' && d ≠ '[' with
      | [] => .error .emptyAccess
      | name => .error (.noAttribute (.ofList name))
    else if c = '[' then
      let place := rest.takeWhile (· ≠ ']')
      match rest.dropWhile (· ≠ ']') with
      | [] => .error .openBracket
      | _ :: after => do
        match ← readNumber place with
        | (some n, []) =>
          match text[n]? with
          | some d => access fuel [d] after
          | none => throw .beyondEnd
        | _ => throw (if place.isEmpty then .emptyAccess else .namedPlace)
    else .error .afterBracket

/-- The text that a name with accesses stands for. Names are looked up; no name and numbers would
refer to unnamed values, of which there are none. -/
def resolve (lookup : List Char → List Char) (name : List Char) :
    Except TemplateFault (List Char) := do
  let first := name.takeWhile fun c => c ≠ '.' && c ≠ '['
  let (_, rest) ← readNumber first
  if rest.isEmpty then throw .positional
  else access name.length (lookup first) (name.drop first.length)

/-- A quoted text in ASCII: other characters are written in hexadecimal. -/
def quotedAscii (text : List Char) : List Char :=
  (Text.quoteChars text).flatMap fun c => if c.toNat < 0x80 then [c] else Text.hexEscape c

/-- Converts the text of a slot. -/
def convert (conversion : Option Char) (text : List Char) : Except TemplateFault (List Char) :=
  match conversion with
  | none | some 's' => .ok text
  | some 'r' => .ok (Text.quoteChars text)
  | some 'a' => .ok (quotedAscii text)
  | some c => .error (.unknownConversion c)

/-- Lays out the text of a slot; an empty layout changes nothing. -/
def layOut (layout text : List Char) : Except TemplateFault (List Char) := do
  if layout.isEmpty then return text else return (← readLayout layout).apply text

/-- Fills the slots of pieces, given how the layouts of slots are filled. -/
def fill (lookup : List Char → List Char)
    (expand : List Char → Except TemplateFault (List Char)) :
    List Piece → Except TemplateFault (List Char)
  | [] => .ok []
  | .literal text :: rest => do return text ++ (← fill lookup expand rest)
  | .malformed fault :: _ => .error fault
  | .slot name conversion layout :: rest => do
    let text ← convert conversion (← resolve lookup name)
    let layout ← if layout.contains '\x7b' then expand layout else pure layout
    let shown ← layOut layout text
    return shown ++ (← fill lookup expand rest)

/-- Formats a template whose layouts may hold slots down to a depth. -/
def formatWithin (lookup : List Char → List Char) : (depth : Nat) → List Char →
    Except TemplateFault (List Char)
  | 0, _ => .error .nestedTooDeeply
  | depth + 1, template => fill lookup (formatWithin lookup depth) (pieces template)

/-- Formats a template. Layouts of slots may hold slots, but these have plain layouts. -/
def format (lookup : List Char → List Char) (template : List Char) :
    Except TemplateFault (List Char) :=
  formatWithin lookup 2 template

end Template

end RecordRules
