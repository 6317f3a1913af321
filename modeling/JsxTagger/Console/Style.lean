import JsxTagger.Console.Color
import JsxTagger.Failure.Fault
import JsxTagger.Text.Blank

/-!
# Styles

A style is a list of words: attributes, with `not` before them or without, a colour, `on` and a
colour for the background, `link` and an address. The order of the words does not matter, attributes
have short names, and the last of several colours counts. `normalStyle` gives the styles that mean
the same one text. A text that is no style stands for itself, apart from capital letters.
-/

namespace JsxTagger.Console

/-- The attributes of a style, in the order in which they are written, with their short names. -/
def attributes : List (String × String) :=
  [("bold", "b"), ("dim", "d"), ("italic", "i"), ("underline", "u"), ("blink", "blink"),
   ("blink2", "blink2"), ("reverse", "r"), ("conceal", "c"), ("strike", "s"),
   ("underline2", "uu"), ("frame", "frame"), ("encircle", "encircle"), ("overline", "o")]

/-- The attribute that a word stands for. -/
def attribute? (word : String) : Option String :=
  (attributes.find? fun a => a.1 = word || a.2 = word).map (·.1)

/-- A style. -/
structure Style where
  /-- The attributes that are set, each with its truth; the last setting comes first. -/
  set : List (String × Bool) := []
  /-- The colour. -/
  color : Option String := none
  /-- The colour of the background. -/
  background : Option String := none
  /-- The address that the text leads to. -/
  link : Option String := none
deriving DecidableEq, Repr, Inhabited

namespace Style

/-- Reads the words of a style. -/
def ofWords (s : Style) : List String → Except ColorFault Style
  | [] => .ok s
  | [word] => readOne s word
  | word :: next :: rest =>
    match Text.lower word with
    | "on" => do
      let background ← Console.color next
      ofWords { s with background := some background } rest
    | "not" =>
      match attribute? next with
      | some a => ofWords { s with set := (a, false) :: s.set } rest
      | none => .error .unknown
    | "link" => ofWords { s with link := some next } rest
    | _ => do ofWords (← readOne s word) (next :: rest)
where
  /-- Reads a word that stands alone. -/
  readOne (s : Style) (word : String) : Except ColorFault Style :=
    let word := Text.lower word
    if ["on", "not", "link"].contains word then .error .unknown
    else
      match attribute? word with
      | some a => .ok { s with set := (a, true) :: s.set }
      | none => do return { s with color := some (← Console.color word) }

/-- The words of a style in their order. -/
def words (s : Style) : List String :=
  (attributes.filterMap fun (a, _) =>
    (s.set.lookup a).map fun on => if on then a else "not " ++ a) ++
  s.color.toList ++ (s.background.map ("on " ++ ·)).toList ++ (s.link.map ("link " ++ ·)).toList

end Style

/-- The text that all styles with the same meaning share. -/
def normalStyle (s : String) : Except Fault String :=
  if s.isEmpty || Text.trim s = "none" then .ok "none"
  else
    match Style.ofWords {} (Text.words s) with
    | .ok style => .ok (if style.words.isEmpty then "none" else " ".intercalate style.words)
    | .error .unknown => .ok (Text.lower (Text.trim s))
    | .error .emptyShare =>
      .error ⟨.badValue, "invalid literal for int() with base 10: ''"⟩

end JsxTagger.Console
