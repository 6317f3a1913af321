import JsxTagger.Console.Emoji.Flags
import JsxTagger.Console.Emoji.Names
import JsxTagger.Console.Emoji.Toned
import JsxTagger.Text.Blank
import JsxTagger.Text.LowerCase

/-!
# Emoji codes

A name between two colons stands for an emoji, such as `:key:`. The name may end in `-text` or
`-emoji`, which asks for one of two forms. Capital letters do not matter, and what is no name stays
as it is.
-/

namespace JsxTagger.Console.Emoji

/-- Takes words two by two. -/
def pairs : List String → List (String × String)
  | a :: b :: rest => (a, b) :: pairs rest
  | _ => []

/-- The emoji with the given code points. -/
def ofCodes (codes : List Nat) : String := String.ofList (codes.map Char.ofNat)

/-- The flag of the country with the given code. -/
def flag (code : String) : String :=
  String.ofList (code.toList.map fun c => Char.ofNat (c.toNat - 'a'.toNat + 0x1F1E6))

/-- The emoji that are named, with their names. -/
def named : List (String × String) :=
  namedCodes.map fun (name, codes) => (name, ofCodes codes)

/-- The flags, with their names. -/
def flags : List (String × String) :=
  let read (table : String) := pairs (Text.words table)
  (read countries ++ read plainCountries).map (fun (name, code) => (name, flag code)) ++
    (read countries ++ read markedCountries).map fun (name, code) => ("flag_for_" ++ name, flag code)

/-- The emoji with neither tone nor form. -/
def plain? (name : String) : Option String := (named.lookup name).or (flags.lookup name)

/-- The endings of names that ask for a skin tone, with the characters for it. -/
def tones : List (String × Nat) :=
  [("_medium-light_skin_tone", 0x1F3FC), ("_medium-dark_skin_tone", 0x1F3FE),
   ("_light_skin_tone", 0x1F3FB), ("_medium_skin_tone", 0x1F3FD), ("_dark_skin_tone", 0x1F3FF)]

/-- The character that asks for the form of a picture. -/
def pictureForm : Char := Char.ofNat 0xFE0F

/-- An emoji in a skin tone: the tone follows the first character, in the place of its form. -/
def inTone (tone : Nat) (emoji : String) : String :=
  match emoji.toList with
  | c :: d :: rest =>
    String.ofList (c :: Char.ofNat tone :: if d = pictureForm then rest else d :: rest)
  | cs => String.ofList (cs ++ [Char.ofNat tone])

/-- The text without an ending. -/
def withoutEnding? (ending name : String) : Option String :=
  if name.endsWith ending then
    some (String.ofList (name.toList.take (name.length - ending.length)))
  else none

/-- The emoji with the given name. -/
def ofName? (name : String) : Option String :=
  (plain? name).or <| tones.findSome? fun (ending, tone) =>
    match withoutEnding? ending name with
    | some base =>
      if (Text.words tonedNames).contains base then (plain? base).map (inTone tone) else none
    | none => none

/-- The endings of names that ask for a form, with the characters for it. -/
def forms : List (String × Char) := [("-emoji", pictureForm), ("-text", Char.ofNat 0xFE0E)]

/-- The emoji that the text between two colons stands for. -/
def ofCode? (code : String) : Option String :=
  let asked := forms.findSome? fun (ending, form) =>
    (withoutEnding? ending code).map fun name => (name, [form])
  let (name, form) := asked.getD (code, [])
  (ofName? (Text.lower name)).map (· ++ String.ofList form)

/-- The text up to the next colon, if no blank comes before it, and what follows the colon. -/
def untilColon? (cs : List Char) : Option (List Char × List Char) :=
  let code := cs.takeWhile fun c => c != ':' && !Text.isSpace c
  match cs.drop code.length with
  | ':' :: rest => some (code, rest)
  | _ => none

/-- Puts emoji in the place of their codes, looking at most at the given number of places. -/
def replaceWithin : Nat → List Char → List Char
  | 0, cs => cs
  | _, [] => []
  | fuel + 1, c :: cs =>
    if c = ':' then
      match untilColon? cs with
      | some (code, rest) =>
        match ofCode? (String.ofList code) with
        | some emoji => emoji.toList ++ replaceWithin fuel rest
        | none => ':' :: code ++ ':' :: replaceWithin fuel rest
      | none => c :: replaceWithin fuel cs
    else c :: replaceWithin fuel cs

/-- Puts emoji in the place of their codes. -/
def replace (cs : List Char) : List Char := replaceWithin cs.length cs

end JsxTagger.Console.Emoji
