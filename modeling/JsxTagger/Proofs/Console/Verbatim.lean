import JsxTagger.Proofs.Console.Codes
import JsxTagger.Proofs.Console.Tags

/-!
# Text that is printed as it is

Text that comes from elsewhere is put between tags without any regard to what it holds itself. It is printed verbatim
exactly if there is no mark in it (`Literal`) and the console shows the whole line as it is (`Shown`). A text that is
not literal gets lighter when it is printed, so it cannot come out as it went in.
-/

namespace JsxTagger.Console

open Emoji (HasEmoji replace replace_cases)

/-! ## Literal text -/

/-- No mark is in a text. -/
structure Literal (cs : List Char) : Prop where
  /-- No part of it is a tag. -/
  noTag : ¬ HasTag cs
  /-- No backslash stands before a bracket. -/
  noEscape : ¬ ['\\', '['] <:+: cs
  /-- No text between two colons is the code of an emoji. -/
  noEmoji : ¬ HasEmoji cs

/-- Text between tags stays if it is literal, and gets lighter if it is not. -/
theorem replace_unescape_cases {cs : List Char} (h : ¬ HasTag cs) :
    (Literal cs ∧ replace (unescape cs) = cs) ∨ load (replace (unescape cs)) < load cs := by
  rcases unescape_cases cs with ⟨hescape, hsame⟩ | ⟨-, hlighter⟩
  · rw [hsame]
    rcases replace_cases cs with ⟨hemoji, hsame⟩ | ⟨-, hlighter⟩
    · exact .inl ⟨⟨h, hescape, hemoji⟩, hsame⟩
    · exact .inr hlighter
  · rcases replace_cases (unescape cs) with ⟨-, hsame⟩ | ⟨-, hlighter'⟩
    · exact .inr (by rw [hsame]; exact hlighter)
    · exact .inr (by omega)

theorem load_replace_unescape_le (cs : List Char) : load (replace (unescape cs)) ≤ load cs := by
  have hunescape : load (unescape cs) ≤ load cs := by
    rcases unescape_cases cs with ⟨-, hsame⟩ | ⟨-, hlighter⟩
    · rw [hsame]
    · omega
  rcases replace_cases (unescape cs) with ⟨-, hsame⟩ | ⟨-, hlighter⟩
  · rwa [hsame]
  · omega

theorem Literal.replace_unescape {cs : List Char} (h : Literal cs) : replace (unescape cs) = cs := by
  rcases unescape_cases cs with ⟨-, hsame⟩ | ⟨hescape, -⟩
  · rw [hsame]
    rcases replace_cases cs with ⟨-, hsame⟩ | ⟨hemoji, -⟩
    · exact hsame
    · exact absurd hemoji h.noEmoji
  · exact absurd hescape h.noEscape

/-! ## Pieces -/

theorem printPieces_text {opened : List OpenTag} {cs out : List Char} {ps : List Piece} :
    printPieces opened (.text cs :: ps) = .ok out ↔
      ∃ rest, printPieces opened ps = .ok rest ∧ out = replace (unescape cs) ++ rest := by
  rw [printPieces]
  cases printPieces opened ps <;> simp [bind, Except.bind, pure, Except.pure, eq_comm]

theorem printPieces_tag {opened : List OpenTag} {contents out : List Char} {ps : List Piece} :
    printPieces opened (.tag contents :: ps) = .ok out ↔
      ∃ opened', applyTag opened contents = .ok opened' ∧ printPieces opened' ps = .ok out := by
  rw [printPieces]
  cases applyTag opened contents <;> simp [bind, Except.bind]

theorem load_slashes (k : Nat) : load (List.replicate k '\\') = 2 * k := by
  induction k with
  | zero => rfl
  | succ k ih =>
    have hslash : weight '\\' = 2 := by decide
    rw [List.replicate_succ, load_cons, ih, hslash]
    omega

/-- A tag is not printed, and neither are all the backslashes before it. -/
theorem printPieces_tagPieces {opened : List OpenTag} {k : Nat} {contents out : List Char} {ps : List Piece}
    (h : printPieces opened (tagPieces k contents ++ ps) = .ok out) :
    ∃ opened' rest, printPieces opened' ps = .ok rest ∧ load out ≤ 2 * k + load contents + load rest ∧
      (0 < k → load out < 2 * k + load contents + load rest) := by
  obtain ⟨behind, hbehind, rfl⟩ := printPieces_text.mp h
  have hslashes := load_replace_unescape_le (List.replicate (k / 2) '\\')
  rw [load_slashes] at hslashes
  by_cases hodd : k % 2 = 1
  · rw [if_pos hodd] at hbehind
    obtain ⟨rest, hrest, rfl⟩ := printPieces_text.mp hbehind
    have htag := load_replace_unescape_le ('[' :: contents ++ [']'])
    have hweight : weight '[' = 1 ∧ weight ']' = 0 := by decide
    simp only [List.cons_append, load_cons, load_append, load_nil, hweight.1, hweight.2] at htag
    rw [load_append, load_append, List.cons_append]
    exact ⟨opened, rest, hrest, by omega, fun _ => by omega⟩
  · rw [if_neg hodd] at hbehind
    obtain ⟨opened', -, hrest⟩ := printPieces_tag.mp hbehind
    rw [load_append]
    exact ⟨opened', behind, hrest, by omega, fun _ => by omega⟩

/-- What follows the first tag is printed. The bracket of the tag gets lost, and something else if there are
backslashes before it. -/
theorem FirstTag.exists_printed_rest {opened : List OpenTag} {cs front contents after out : List Char} {k : Nat}
    (hfirst : FirstTag cs front k contents after) (h : printPieces opened (split cs) = .ok out) :
    ∃ opened' rest, printPieces opened' (split after) = .ok rest ∧ load out + load after < load cs + load rest ∧
      (0 < k → load out + load after + 1 < load cs + load rest) := by
  rw [hfirst.split_eq] at h
  obtain ⟨behind, hbehind, rfl⟩ := printPieces_text.mp h
  obtain ⟨opened', rest, hrest, hle, hslashes⟩ := printPieces_tagPieces hbehind
  have hfront := load_replace_unescape_le front
  have hweight : weight '[' = 1 ∧ weight ']' = 0 := by decide
  have hload : load cs = load front + 2 * k + (1 + (load contents + load after)) := by
    simp only [hfirst.text_eq, load_append, load_cons, load_slashes, hweight, Nat.zero_add]
  rw [load_append, hload]
  refine ⟨opened', rest, hrest, by omega, fun hk => ?_⟩
  have hlighter := hslashes hk
  omega

/-- What is printed is a literal text itself, or lighter than the text. -/
theorem printPieces_split_cases {opened : List OpenTag} {cs out : List Char}
    (h : printPieces opened (split cs) = .ok out) : (Literal cs ∧ out = cs) ∨ load out < load cs := by
  induction hn : cs.length using Nat.strongRecOn generalizing opened cs out with
  | ind n ih =>
    subst hn
    by_cases htag : HasTag cs
    · obtain ⟨front, k, contents, after, hfirst⟩ := htag.exists_first
      obtain ⟨opened', rest, hrest, hlighter, -⟩ := hfirst.exists_printed_rest h
      have hlength : after.length < cs.length := by
        rw [hfirst.text_eq]
        simp only [List.length_append, List.length_cons]
        omega
      have hafter : load rest ≤ load after := by
        rcases ih after.length hlength hrest rfl with ⟨-, hsame⟩ | hlighter
        · rw [hsame]
        · omega
      exact .inr (by omega)
    · rw [split_of_not_hasTag htag] at h
      obtain ⟨rest, hrest, rfl⟩ := printPieces_text.mp h
      cases hrest
      rw [List.append_nil]
      exact replace_unescape_cases htag

/-- A literal text is printed as it is. -/
theorem Literal.printPieces {cs : List Char} (h : Literal cs) (opened : List OpenTag) :
    printPieces opened (split cs) = .ok cs := by
  rw [split_of_not_hasTag h.noTag]
  exact printPieces_text.mpr ⟨[], rfl, by rw [h.replace_unescape, List.append_nil]⟩

/-! ## Text beside tags -/

/-- A pair of tags opens and closes a style, and their names weigh nothing. -/
structure Paints (style : List Char) (tag : OpenTag) : Prop where
  isTag : IsTag style
  opens : applyTag [] style = .ok [tag]
  closes : applyTag [tag] ('/' :: style) = .ok []
  weightless : load style = 0

theorem Paints.isClosing {style : List Char} {tag : OpenTag} (h : Paints style tag) : IsTag ('/' :: style) :=
  ⟨by decide, h.isTag.no_bracket⟩

variable {style : List Char} {tag : OpenTag}

theorem printPieces_before_tag {opened : List OpenTag} {before contents after out : List Char} (hbefore : ¬ HasTag before)
    (hlast : before.getLast? ≠ some '\\') (htag : IsTag contents) :
    printPieces opened (split (before ++ '[' :: (contents ++ ']' :: after))) = .ok out ↔
      ∃ opened' rest, applyTag opened contents = .ok opened' ∧ printPieces opened' (split after) = .ok rest ∧
        out = replace (unescape before) ++ rest := by
  have hfirst : FirstTag (before ++ '[' :: (contents ++ ']' :: after)) before 0 contents after :=
    ⟨by simp, htag, by simpa using hbefore, hlast⟩
  rw [hfirst.split_eq]
  constructor
  · intro h
    obtain ⟨shown, hshown, rfl⟩ := printPieces_text.mp h
    obtain ⟨rest, hbehind, hsame⟩ := printPieces_text.mp hshown
    obtain ⟨opened', hopened, hrest⟩ := printPieces_tag.mp hbehind
    exact ⟨opened', rest, hopened, hrest, by rw [hsame]; rfl⟩
  · rintro ⟨opened', rest, hopened, hrest, rfl⟩
    have htagged := printPieces_tag.mpr ⟨opened', hopened, hrest⟩
    have hslashes := printPieces_text.mpr ⟨rest, htagged, show rest = replace (unescape []) ++ rest from rfl⟩
    exact printPieces_text.mpr ⟨rest, hslashes, rfl⟩

/-- Text before a tag is printed as it is, if it is literal. -/
theorem Literal.printPieces_before_tag {opened : List OpenTag} {before contents after out : List Char}
    (hbefore : Literal before) (hlast : before.getLast? ≠ some '\\') (htag : IsTag contents) :
    Console.printPieces opened (split (before ++ '[' :: (contents ++ ']' :: after))) = .ok out ↔
      ∃ opened' rest, applyTag opened contents = .ok opened' ∧ Console.printPieces opened' (split after) = .ok rest ∧
        out = before ++ rest := by
  rw [Console.printPieces_before_tag hbefore.noTag hlast htag, hbefore.replace_unescape]

theorem literal_nil : Literal [] := ⟨not_hasTag_nil, by decide, HasEmoji.not_nil⟩

/-- Text behind a label in a style. -/
def labelled (style label text : List Char) : List Char :=
  '[' :: (style ++ ']' :: (label ++ '[' :: ('/' :: style ++ ']' :: text)))

/-- Text in a style, behind other text. -/
def enclosed (before style text : List Char) : List Char :=
  before ++ '[' :: (style ++ ']' :: (text ++ '[' :: ('/' :: style ++ [']'])))

theorem printPieces_labelled (h : Paints style tag) {label text out : List Char} (hlabel : Literal label)
    (hlast : label.getLast? ≠ some '\\') :
    printPieces [] (split (labelled style label text)) = .ok out ↔
      ∃ shown, printPieces [] (split text) = .ok shown ∧ out = label ++ shown := by
  rw [labelled, ← List.nil_append ('[' :: _), literal_nil.printPieces_before_tag (by simp) h.isTag]
  constructor
  · rintro ⟨_, _, hopens, hrest, rfl⟩
    cases h.opens.symm.trans hopens
    obtain ⟨_, shown, hcloses, hshown, rfl⟩ := (hlabel.printPieces_before_tag hlast h.isClosing).mp hrest
    cases h.closes.symm.trans hcloses
    exact ⟨shown, hshown, rfl⟩
  · rintro ⟨shown, hshown, rfl⟩
    have hrest := (hlabel.printPieces_before_tag hlast h.isClosing).mpr ⟨[], shown, h.closes, hshown, rfl⟩
    exact ⟨[tag], _, h.opens, hrest, rfl⟩

/-- A text has as many backslashes at its end as it has, if only none. -/
theorem exists_trailing_slashes (cs : List Char) :
    ∃ front k, cs = front ++ List.replicate k '\\' ∧ front.getLast? ≠ some '\\' := by
  induction cs using List.reverseRecOn with
  | nil => exact ⟨[], 0, rfl, by simp⟩
  | append_singleton cs c ih =>
    by_cases hc : c = '\\'
    · obtain ⟨front, k, hcs, hlast⟩ := ih
      exact ⟨front, k + 1, by rw [hc, hcs, List.replicate_succ', List.append_assoc], hlast⟩
    · exact ⟨cs ++ [c], 0, by simp, by simpa using hc⟩

theorem printPieces_split_nil {opened : List OpenTag} {out : List Char}
    (h : printPieces opened (split []) = .ok out) : out = [] := by
  rcases printPieces_split_cases h with ⟨-, hsame⟩ | hlighter
  · exact hsame
  · cases hlighter

theorem load_closing (h : Paints style tag) (text : List Char) :
    load (text ++ '[' :: ('/' :: style ++ [']'])) = load text + 1 := by
  have hweight : weight '[' = 1 ∧ weight ']' = 0 ∧ weight '/' = 0 := by decide
  simp only [load_append, load_cons, load_nil, List.cons_append, hweight, h.weightless]

/-- A tag before a closing tag is lost, and so is the closing tag, which stands for one bracket only. -/
theorem load_lt_of_hasTag (h : Paints style tag) {opened : List OpenTag} {text out : List Char} (htag : HasTag text)
    (hout : printPieces opened (split (text ++ '[' :: ('/' :: style ++ [']']))) = .ok out) : load out < load text := by
  obtain ⟨front, k, contents, after, hfirst⟩ := htag.exists_first
  obtain ⟨opened', rest, hrest, hlighter, -⟩ := (hfirst.append _).exists_printed_rest hout
  rw [load_closing h, load_closing h] at hlighter
  rcases printPieces_split_cases hrest with ⟨hliteral, -⟩ | hrestLighter
  · exact absurd ⟨after, '/' :: style, [], h.isClosing, rfl⟩ hliteral.noTag
  · rw [load_closing h] at hrestLighter
    omega

/-- Text before a closing tag comes out as heavy as it was only if it is literal and has no backslash at its end. -/
theorem printPieces_before_closing (h : Paints style tag) {opened : List OpenTag} {text out : List Char}
    (hout : printPieces opened (split (text ++ '[' :: ('/' :: style ++ [']']))) = .ok out)
    (hload : load text ≤ load out) : Literal text ∧ text.getLast? ≠ some '\\' ∧ out = text := by
  have htag : ¬ HasTag text := fun htag => Nat.not_lt_of_le hload (load_lt_of_hasTag h htag hout)
  obtain ⟨front, k, rfl, hlast⟩ := exists_trailing_slashes text
  have hfirst : FirstTag (front ++ List.replicate k '\\' ++ '[' :: ('/' :: style ++ [']'])) front k ('/' :: style) [] :=
    ⟨rfl, h.isClosing, htag, hlast⟩
  obtain ⟨opened', rest, hrest, -, hslashes⟩ := hfirst.exists_printed_rest hout
  rw [printPieces_split_nil hrest, load_nil, load_closing h] at hslashes
  have hk : k = 0 := by omega
  subst hk
  rw [List.replicate_zero, List.append_nil] at htag hload hout ⊢
  obtain ⟨_, _, -, hclosed, rfl⟩ := (printPieces_before_tag htag hlast h.isClosing).mp hout
  rw [printPieces_split_nil hclosed, List.append_nil] at hload ⊢
  rcases replace_unescape_cases htag with ⟨hliteral, hsame⟩ | hlighter
  · exact ⟨hliteral, hlast, hsame⟩
  · omega

/-! ## Shown text -/

/-- The console shows a text as it is. -/
structure Shown (cs : List Char) : Prop where
  /-- Every character is printed. -/
  printed : ∀ c ∈ cs, isControl c = false
  /-- No character is a tab. -/
  noTab : '\t' ∉ cs
  /-- Every line fits, blanks at its end aside. -/
  fits : ∀ line ∈ splitLines cs, textWidth line ≤ lineWidth

theorem load_layOut_le (cs : List Char) : load (layOut cs) ≤ load cs := sum_layOut_le (by decide) (by decide) cs

theorem load_filter_le (cs : List Char) : load (cs.filter fun c => !isControl c) ≤ load cs := by
  induction cs with
  | nil => exact Nat.le_refl _
  | cons c cs ih =>
    rw [List.filter_cons]
    split
    · rw [load_cons, load_cons]
      omega
    · rw [load_cons]
      omega

theorem load_filter_lt {cs : List Char} (h : ∃ c ∈ cs, isControl c = true) :
    load (cs.filter fun c => !isControl c) < load cs := by
  obtain ⟨c, hc, hcontrol⟩ := h
  obtain ⟨before, after, rfl⟩ := List.append_of_mem hc
  have hbefore := load_filter_le before
  have hafter := load_filter_le after
  have hweight : 0 < weight c := by
    rw [weight]
    split
    · omega
    · rw [if_pos (.inr (.inr hcontrol))]
      omega
  rw [List.filter_append, List.filter_cons_of_neg (by simpa using hcontrol), load_append, load_append, load_cons]
  omega

theorem layOut_filter_eq_self_iff (cs : List Char) : layOut (cs.filter fun c => !isControl c) = cs ↔ Shown cs := by
  by_cases hcontrol : ∃ c ∈ cs, isControl c = true
  · refine iff_of_false (fun h => ?_) fun h => ?_
    · have hlayOut := load_layOut_le (cs.filter fun c => !isControl c)
      have hfilter := load_filter_lt hcontrol
      rw [h] at hlayOut
      omega
    · obtain ⟨c, hc, hcontrol⟩ := hcontrol
      rw [h.printed c hc] at hcontrol
      cases hcontrol
  · have hprinted : ∀ c ∈ cs, isControl c = false := by simpa using hcontrol
    rw [List.filter_eq_self.mpr fun c hc => by simp [hprinted c hc], layOut_eq_self_iff]
    exact ⟨fun ⟨htab, hfits⟩ => ⟨hprinted, htab, hfits⟩, fun h => ⟨h.noTab, h.fits⟩⟩

theorem plainText_eq_ok {s t : String} :
    plainText s = .ok t ↔
      ∃ cs, printPieces [] (split s.toList) = .ok cs ∧ t.toList = layOut (cs.filter fun c => !isControl c) := by
  have hsplit : pieces (s.length + 1) [] s.toList = split s.toList := by rw [split, String.length_toList]
  rw [plainText, plainChars, hsplit]
  cases printPieces [] (split s.toList) with
  | error fault => simp [bind, Except.bind]
  | ok cs =>
    simp only [bind, Except.bind, pure, Except.pure, Except.ok.injEq, exists_eq_left']
    rw [← String.toList_inj, String.toList_ofList, eq_comm]

/-- What comes out as it went in did not get lighter anywhere. -/
theorem load_le_of_layOut_eq {before text out : List Char}
    (h : before ++ text = layOut ((before ++ out).filter fun c => !isControl c)) : load text ≤ load out := by
  have hlayOut := load_layOut_le ((before ++ out).filter fun c => !isControl c)
  have hfilter := load_filter_le (before ++ out)
  rw [← h, load_append] at hlayOut
  rw [load_append] at hfilter
  omega

/-- Text behind a label is printed verbatim exactly if it is literal and the line is shown as it is. -/
theorem plainText_labelled_iff (h : Paints style tag) {label text : List Char} {s t : String}
    (hlabel : Literal label) (hlast : label.getLast? ≠ some '\\') (hs : s.toList = labelled style label text)
    (ht : t.toList = label ++ text) : plainText s = .ok t ↔ Literal text ∧ Shown (label ++ text) := by
  rw [plainText_eq_ok, hs, ht]
  constructor
  · rintro ⟨_, hprinted, hshown⟩
    obtain ⟨out, hout, rfl⟩ := (printPieces_labelled h hlabel hlast).mp hprinted
    have hload := load_le_of_layOut_eq hshown
    rcases printPieces_split_cases hout with ⟨hliteral, rfl⟩ | hlighter
    · exact ⟨hliteral, (layOut_filter_eq_self_iff _).mp hshown.symm⟩
    · omega
  · rintro ⟨hliteral, hshown⟩
    have hprinted := (printPieces_labelled h hlabel hlast).mpr ⟨text, hliteral.printPieces [], rfl⟩
    exact ⟨_, hprinted, ((layOut_filter_eq_self_iff _).mpr hshown).symm⟩

/-- Text in a style is printed verbatim exactly if it is literal, no backslash takes the meaning of the closing tag
away, and the line is shown as it is. -/
theorem plainText_enclosed_iff (h : Paints style tag) {before text : List Char} {s t : String}
    (hbefore : Literal before) (hlast : before.getLast? ≠ some '\\') (hs : s.toList = enclosed before style text)
    (ht : t.toList = before ++ text) :
    plainText s = .ok t ↔ Literal text ∧ text.getLast? ≠ some '\\' ∧ Shown (before ++ text) := by
  rw [plainText_eq_ok, hs, ht, enclosed]
  constructor
  · rintro ⟨_, hprinted, hshown⟩
    obtain ⟨_, out, hopens, hout, rfl⟩ := (hbefore.printPieces_before_tag hlast h.isTag).mp hprinted
    obtain ⟨hliteral, hslash, rfl⟩ := printPieces_before_closing h hout (load_le_of_layOut_eq hshown)
    exact ⟨hliteral, hslash, (layOut_filter_eq_self_iff _).mp hshown.symm⟩
  · rintro ⟨hliteral, hslash, hshown⟩
    have hclosing := (hliteral.printPieces_before_tag hslash h.isClosing).mpr
      ⟨[], [], h.closes, literal_nil.printPieces [], rfl⟩
    have hprinted := (hbefore.printPieces_before_tag hlast h.isTag).mpr ⟨[tag], _, h.opens, hclosing, rfl⟩
    rw [List.append_nil] at hprinted
    exact ⟨_, hprinted, ((layOut_filter_eq_self_iff _).mpr hshown).symm⟩

end JsxTagger.Console
