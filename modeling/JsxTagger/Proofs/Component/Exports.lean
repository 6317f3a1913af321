import JsxTagger.Proofs.Component.Found

/-!
# Export flags

Which names a file exports, without a traversal: `ExportsByName` and `ExportsAsDefault` describe the
statements at the top of a file, and `DefaultExpression` the components that are exported where they are
written. The main statement is `classifyComponents_exportedAs`.
-/

namespace JsxTagger.Classify

open Syntax

/-! ## What is exported -/

/-- The statement is an `export default`. -/
def IsDefault (statement : Node) : Prop := ∃ c ∈ statement.children, c.kind = .defaultKeyword

/-- Between its braces the statement lists something under a name: the one behind `as` if there is one,
without its quotes. -/
inductive Lists (source : Bytes) (statement : Node) : String → Prop
  | intro {clause specifier n : Node} (hclause : clause ∈ statement.namedChildren)
      (hkind : clause.kind = .exportClause) (hspecifier : specifier ∈ clause.namedChildren)
      (hlisted : specifier.kind = .exportSpecifier)
      (hname : (specifier.child? .alternativeName).or (specifier.child? .name) = some n) :
      Lists source statement (unquoted (n.text source))

/-- The declaration declares a name: `const`, `let` and `var` those of their declarators that bind an
identifier, any other declaration its own. -/
inductive DeclaresName (source : Bytes) (declaration : Node) : String → Prop
  | bound {declarator n : Node}
      (hkind : declaration.kind = .lexicalDeclaration ∨ declaration.kind = .variableDeclaration)
      (hmem : declarator ∈ declaration.namedChildren) (hdeclarator : declarator.kind = .variableDeclarator)
      (hname : declarator.child? .name = some n) (hidentifier : n.kind = .identifier) :
      DeclaresName source declaration (n.text source)
  | own {n : Node} (hlexical : declaration.kind ≠ .lexicalDeclaration)
      (hvariable : declaration.kind ≠ .variableDeclaration) (hname : declaration.child? .name = some n) :
      DeclaresName source declaration (n.text source)

/-- A statement at the top of the file that is no `export default` lists the name or declares it. -/
inductive ExportsByName (source : Bytes) (root : Node) (name : String) : Prop
  | listed {statement : Node} (hmem : statement ∈ exportStatements root) (hdefault : ¬ IsDefault statement)
      (h : Lists source statement name)
  | declared {statement declaration : Node} (hmem : statement ∈ exportStatements root)
      (hdefault : ¬ IsDefault statement) (hchild : statement.child? .declaration = some declaration)
      (h : DeclaresName source declaration name)

/-- An `export default` at the top of the file has the name as its value, or a declaration of that name
and no other name as its value. -/
inductive ExportsAsDefault (source : Bytes) (root : Node) (name : String) : Prop
  | value {statement value : Node} (hmem : statement ∈ exportStatements root)
      (hdefault : IsDefault statement) (hvalue : statement.child? .value = some value)
      (hidentifier : value.kind = .identifier) (hname : value.text source = name)
  | declaration {statement declaration n : Node} (hmem : statement ∈ exportStatements root)
      (hdefault : IsDefault statement)
      (hvalue : ∀ v, statement.child? .value = some v → v.kind ≠ .identifier)
      (hchild : statement.child? .declaration = some declaration)
      (hown : declaration.child? .name = some n) (hname : n.text source = name)

section

variable {source : Bytes} {root statement declaration : Node} {name : String}

theorem any_defaultKeyword_iff :
    (statement.children.any (·.kind == .defaultKeyword)) = true ↔ IsDefault statement := by
  simp [IsDefault]

theorem unquoted_empty : unquoted "" = "" := rfl

theorem mem_specifiedNames (hname : name ≠ "") :
    name ∈ specifiedNames source statement ↔ Lists source statement name := by
  simp only [specifiedNames, List.mem_flatMap, List.mem_map, List.mem_filter, beq_iff_eq]
  constructor
  · rintro ⟨clause, ⟨hclause, hkind⟩, specifier, ⟨hspecifier, hlisted⟩, rfl⟩
    cases hn : (specifier.child? .alternativeName).or (specifier.child? .name) with
    | none => exact absurd (by rw [hn, textOf, unquoted_empty]) hname
    | some n => exact .intro hclause hkind hspecifier hlisted hn
  · rintro ⟨hclause, hkind, hspecifier, hlisted, hn⟩
    exact ⟨_, ⟨hclause, hkind⟩, _, ⟨hspecifier, hlisted⟩, by rw [hn, textOf]⟩

theorem mem_declaredNames (hname : name ≠ "") :
    name ∈ declaredNames source declaration ↔ DeclaresName source declaration name := by
  rw [declaredNames]
  constructor
  · intro h
    split at h
    case isTrue hkind =>
      obtain ⟨declarator, hmem, hd⟩ := List.mem_filterMap.mp h
      split at hd
      case isTrue hdeclarator =>
        split at hd
        case h_1 n hn =>
          split at hd
          case isTrue hidentifier =>
            cases hd
            exact .bound (by simpa using hkind) hmem hdeclarator hn hidentifier
          case isFalse => cases hd
        case h_2 => cases hd
      case isFalse => cases hd
    case isFalse hkind =>
      obtain ⟨hlexical, hvariable⟩ := not_or.mp (by simpa using hkind)
      rw [List.mem_singleton] at h
      subst h
      cases hn : declaration.child? .name with
      | none => exact absurd (by rw [hn, textOf]) hname
      | some n => exact .own hlexical hvariable hn
  · intro h
    cases h with
    | bound hkind hmem hdeclarator hn hidentifier =>
      rw [if_pos (by simpa using hkind)]
      exact List.mem_filterMap.mpr ⟨_, hmem, by rw [if_pos hdeclarator, hn]; simp [hidentifier]⟩
    | own hlexical hvariable hn =>
      rw [if_neg (by simp [hlexical, hvariable]), hn, textOf]
      exact List.mem_singleton_self _

/-- What a statement exports by name. -/
theorem mem_exportedNames_named (hname : name ≠ "") :
    (⟨name, false⟩ : ExportedName) ∈ exportedNames source statement ↔
      ¬ IsDefault statement ∧ (Lists source statement name ∨
        ∃ declaration, statement.child? .declaration = some declaration ∧
          DeclaresName source declaration name) := by
  rw [exportedNames]
  split
  case isTrue h => simp [any_defaultKeyword_iff.mp h]
  case isFalse h =>
    have hdefault : ¬ IsDefault statement := fun hd => h (any_defaultKeyword_iff.mpr hd)
    have hinline : name ∈ ((statement.child? .declaration).map (declaredNames source)).getD [] ↔
        ∃ declaration, statement.child? .declaration = some declaration ∧
          DeclaresName source declaration name := by
      cases statement.child? .declaration with
      | none => simp
      | some declaration => simp [mem_declaredNames hname]
    simp [hdefault, mem_specifiedNames hname, hinline]

/-- What a statement exports as the default. -/
theorem mem_exportedNames_default (hname : name ≠ "") :
    (⟨name, true⟩ : ExportedName) ∈ exportedNames source statement ↔
      IsDefault statement ∧
        ((∃ value, statement.child? .value = some value ∧ value.kind = .identifier ∧
            value.text source = name) ∨
          (∀ v, statement.child? .value = some v → v.kind ≠ .identifier) ∧
            ∃ declaration n, statement.child? .declaration = some declaration ∧
              declaration.child? .name = some n ∧ n.text source = name) := by
  have hdeclared : name = exportedNames.declaredName source (statement.child? .declaration) ↔
      ∃ declaration n, statement.child? .declaration = some declaration ∧
        declaration.child? .name = some n ∧ n.text source = name := by
    rw [exportedNames.declaredName]
    cases statement.child? .declaration with
    | none => simp [textOf, hname]
    | some declaration =>
      cases hn : declaration.child? .name with
      | none => simp [hn, textOf, hname]
      | some n => simp [hn, textOf, eq_comm]
  rw [exportedNames]
  split
  case isFalse h =>
    have hdefault : ¬ IsDefault statement := fun hd => h (any_defaultKeyword_iff.mpr hd)
    simp [hdefault]
  case isTrue h =>
    have hdefault := any_defaultKeyword_iff.mp h
    cases hvalue : statement.child? .value with
    | none => simp [hdefault, hdeclared]
    | some value =>
      by_cases hkind : value.kind = .identifier
      · simp [hdefault, hkind, eq_comm]
      · simp [hdefault, hkind, hdeclared]

/-- What a file exports by name. -/
theorem mem_fileExports_named (hname : name ≠ "") :
    (⟨name, false⟩ : ExportedName) ∈ fileExports source root ↔ ExportsByName source root name := by
  simp only [fileExports, List.mem_flatMap, mem_exportedNames_named hname]
  constructor
  · rintro ⟨statement, hmem, hdefault, h | ⟨declaration, hchild, h⟩⟩
    · exact .listed hmem hdefault h
    · exact .declared hmem hdefault hchild h
  · rintro (⟨hmem, hdefault, h⟩ | ⟨hmem, hdefault, hchild, h⟩)
    · exact ⟨_, hmem, hdefault, .inl h⟩
    · exact ⟨_, hmem, hdefault, .inr ⟨_, hchild, h⟩⟩

/-- What a file exports as the default. -/
theorem mem_fileExports_default (hname : name ≠ "") :
    (⟨name, true⟩ : ExportedName) ∈ fileExports source root ↔ ExportsAsDefault source root name := by
  simp only [fileExports, List.mem_flatMap, mem_exportedNames_default hname]
  constructor
  · rintro ⟨statement, hmem, hdefault, ⟨value, hvalue, hkind, h⟩ | ⟨hvalue, declaration, n, hchild, hown, h⟩⟩
    · exact .value hmem hdefault hvalue hkind h
    · exact .declaration hmem hdefault hvalue hchild hown h
  · rintro (⟨hmem, hdefault, hvalue, hkind, h⟩ | ⟨hmem, hdefault, hvalue, hchild, hown, h⟩)
    · exact ⟨_, hmem, hdefault, .inl ⟨_, hvalue, hkind, h⟩⟩
    · exact ⟨_, hmem, hdefault, .inr ⟨hvalue, _, _, hchild, hown, h⟩⟩

/-- A component that bears a name is marked by the exported names that are this name. -/
theorem any_marks_iff {es : List ExportedName} {c : Component} (hc : c.name = .str name) (hname : name ≠ "")
    (isDefault : Bool) : es.any (marks c isDefault) = true ↔ ⟨name, isDefault⟩ ∈ es := by
  have hmarks : ∀ e : ExportedName, marks c isDefault e = true ↔ e = ⟨name, isDefault⟩ := by
    rintro ⟨exported, flag⟩
    simp only [marks, hc, Json.isText, Bool.and_eq_true, Bool.not_eq_true', beq_iff_eq,
      ExportedName.mk.injEq]
    constructor
    · rintro ⟨⟨rfl, -⟩, rfl⟩
      exact ⟨rfl, rfl⟩
    · rintro ⟨rfl, rfl⟩
      exact ⟨⟨rfl, by simpa using hname⟩, rfl⟩
  simp only [List.any_eq_true, hmarks]
  constructor
  · rintro ⟨e, he, rfl⟩
    exact he
  · intro h
    exact ⟨_, h, rfl⟩

end

/-! ## Statements that export the same -/

/-- The text of a node that is an identifier. -/
def identifierText? (source : Bytes) (n : Option Node) : Option String :=
  n.bind fun n => if n.kind = .identifier then some (n.text source) else none

section

variable {source source' : Bytes} {statement statement' declaration : Node} {f : Node → Node}

theorem declaredNames_eq : declaredNames source declaration =
    if declaration.kind = .lexicalDeclaration || declaration.kind = .variableDeclaration then
      declaration.namedChildren.filterMap fun declarator =>
        if declarator.kind = .variableDeclarator then identifierText? source (declarator.child? .name)
        else none
    else [textOf source (declaration.child? .name)] := by
  rw [declaredNames]
  split
  case isTrue =>
    refine List.filterMap_congr fun declarator _ => ?_
    cases declarator.child? .name <;> rfl
  case isFalse => rfl

theorem exportedNames_eq : exportedNames source statement =
    if statement.children.any (·.kind == .defaultKeyword) then
      [⟨(identifierText? source (statement.child? .value)).getD
        (exportedNames.declaredName source (statement.child? .declaration)), true⟩]
    else (specifiedNames source statement ++
      ((statement.child? .declaration).map (declaredNames source)).getD []).map (⟨·, false⟩) := by
  rw [exportedNames]
  split
  case isTrue =>
    cases statement.child? .value with
    | none => rfl
    | some value =>
      simp only [identifierText?, Option.bind_some]
      split <;> rfl
  case isFalse => rfl

/-- A declaration whose parts declare the same names declares the same names. -/
theorem declaredNames_congr (hkind : ∀ n, (f n).kind = n.kind)
    (hchildren : declaration.kind = .lexicalDeclaration ∨ declaration.kind = .variableDeclaration →
      (f declaration).namedChildren = declaration.namedChildren.map f)
    (hown : declaration.kind ≠ .lexicalDeclaration → declaration.kind ≠ .variableDeclaration →
      textOf source' ((f declaration).child? .name) = textOf source (declaration.child? .name))
    (hbound : ∀ c ∈ declaration.namedChildren, c.kind = .variableDeclarator →
      identifierText? source' ((f c).child? .name) = identifierText? source (c.child? .name)) :
    declaredNames source' (f declaration) = declaredNames source declaration := by
  rw [declaredNames_eq, declaredNames_eq, hkind]
  split
  case isTrue hlist =>
    rw [hchildren (by simpa using hlist), List.filterMap_map]
    refine List.filterMap_congr fun c hc => ?_
    rw [Function.comp_apply, hkind]
    split
    case isTrue hdeclarator => exact hbound c hc hdeclarator
    case isFalse => rfl
  case isFalse hother =>
    obtain ⟨hlexical, hvariable⟩ := not_or.mp (by simpa using hother)
    rw [hown hlexical hvariable]

/-- A statement whose lists name the same names lists the same names. -/
theorem specifiedNames_congr (hkind : ∀ n, (f n).kind = n.kind)
    (hclauses : statement'.namedChildren.filter (·.kind == .exportClause) =
      (statement.namedChildren.filter (·.kind == .exportClause)).map f)
    (hchildren : ∀ clause ∈ statement.namedChildren, clause.kind = .exportClause →
      (f clause).namedChildren = clause.namedChildren.map f)
    (hnames : ∀ clause ∈ statement.namedChildren, ∀ c ∈ clause.namedChildren, c.kind = .exportSpecifier →
      textOf source' (((f c).child? .alternativeName).or ((f c).child? .name)) =
        textOf source ((c.child? .alternativeName).or (c.child? .name))) :
    specifiedNames source' statement' = specifiedNames source statement := by
  rw [specifiedNames, specifiedNames, hclauses, List.flatMap_map]
  refine List.flatMap_congr fun clause hclause => ?_
  obtain ⟨hmem, hlist⟩ := List.mem_filter.mp hclause
  rw [hchildren clause hmem (by simpa using hlist), List.filter_map, List.map_map]
  simp only [Function.comp_def, hkind]
  refine List.map_congr_left fun c hc => ?_
  obtain ⟨hc, hspecifier⟩ := List.mem_filter.mp hc
  rw [hnames clause hmem c hc (by simpa using hspecifier)]

/-- A statement whose parts say the same exports the same names. -/
theorem exportedNames_congr
    (hdefault : statement'.children.any (·.kind == .defaultKeyword) =
      statement.children.any (·.kind == .defaultKeyword))
    (hvalue : identifierText? source' (statement'.child? .value) =
      identifierText? source (statement.child? .value))
    (hspecified : specifiedNames source' statement' = specifiedNames source statement)
    (hdeclared : (statement'.child? .declaration).map (declaredNames source') =
      (statement.child? .declaration).map (declaredNames source))
    (hown : exportedNames.declaredName source' (statement'.child? .declaration) =
      exportedNames.declaredName source (statement.child? .declaration)) :
    exportedNames source' statement' = exportedNames source statement := by
  rw [exportedNames_eq, exportedNames_eq, hdefault, hvalue, hspecified, hdeclared, hown]

end

/-! ## Expressions that are exported where they stand -/

/-- The parent of the node is an export statement, and the node starts where the value of this statement
starts. -/
def StandsAsValue (s : Site) : Prop :=
  ∃ statement above value, s.above = statement :: above ∧ statement.kind = .exportStatement ∧
    statement.child? .value = some value ∧ value.start = s.node.start

/-- A call, a function expression, an arrow function or a class expression that is exported where it
stands. -/
def DefaultExpression (s : Site) : Prop :=
  (s.node.kind = .callExpression ∨ s.node.kind = .classExpression ∨ s.node.kind.isComponentFunction = true) ∧
    StandsAsValue s

theorem isExportedValue_iff {s : Site} : isExportedValue s = true ↔ StandsAsValue s := by
  rw [isExportedValue, StandsAsValue, Site.parent?]
  cases s.above with
  | nil => simp
  | cons statement above => simp [Option.any_eq_true, and_assoc]

/-- The flags of a component before the export pass. -/
theorem flags_of_describe {source : Bytes} {s : Site} {n : Node} {c : Component}
    (h : describe source s = some (n, c)) :
    (c.isDefaultExport = true ↔ DefaultExpression s) ∧ c.isNamedExport = false := by
  cases describe_eq_some_iff.mp h with
  | classDeclaration hkind => simp [componentAt, DefaultExpression, hkind, Kind.isComponentFunction]
  | functionDeclaration hkind => simp [componentAt, DefaultExpression, hkind, Kind.isComponentFunction]
  | boundFunction hkind => simp [componentAt, DefaultExpression, hkind, Kind.isComponentFunction]
  | wrapperCall hkind => simp [componentAt, DefaultExpression, hkind, isExportedValue_iff]
  | exportedFunction hfunction hexported =>
    simp [componentAt, DefaultExpression, hfunction, isExportedValue_iff.mp hexported]
  | exportedClass hkind hexported =>
    simp [componentAt, DefaultExpression, hkind, isExportedValue_iff.mp hexported]

/-- The components that are found in a tree, without their places. -/
def found (source : Bytes) (n : Node) : List Component :=
  n.sites.filterMap fun s => (describe source s).map (unplaced ·.2)

/-- Two trees whose sites correspond to each other and look alike hold the same components. Sites at which
nothing is found do not count. -/
theorem found_congr {source source' : Bytes} {n n' : Node} {f : Site → Site} {p : Site → Bool}
    (hnone : ∀ source s, p s = false → describe source s = none)
    (hsites : n'.sites.filter p = (n.sites.filter p).map f)
    (halike : ∀ s ∈ n.sites, Alike source source' s (f s)) : found source' n' = found source n := by
  have hfilter : ∀ (source : Bytes) (n : Node), found source n =
      (n.sites.filter p).filterMap fun s => (describe source s).map (unplaced ·.2) := by
    intro source n
    rw [found, List.filterMap_filter]
    refine List.filterMap_congr fun s _ => ?_
    cases hp : p s with
    | false => rw [hnone source s hp]; rfl
    | true => rfl
  rw [hfilter source' n', hsites, hfilter source n, List.filterMap_map]
  exact List.filterMap_congr fun s hs => (halike s (List.mem_filter.mp hs).1).describe_eq

/-- The components of a file without their places. -/
theorem classifyComponents_unplaced (tree : SourceTree) :
    (classifyComponents tree).map unplaced = (found tree.source tree.root).map
      (flagged (fileExports tree.source tree.root)) := by
  rw [classifyComponents_eq_map, found, ← List.map_filterMap, List.map_map, List.map_map, List.map_map]
  rfl

/-- What classification makes of a site at which it finds a component: the component that is found, with
other export flags. One that has a name is a named export if the file exports its name, and a default
export if it is an expression that is exported where it stands or the file exports its name as the
default. -/
structure ExportedAs (tree : SourceTree) (s : Site) (c : Component) : Prop where
  found : ∃ n found, describe tree.source s = some (n, found) ∧
    c = { found with isDefaultExport := c.isDefaultExport, isNamedExport := c.isNamedExport }
  isNamedExport : ∀ name, c.name = .str name → name ≠ "" →
    (c.isNamedExport = true ↔ ExportsByName tree.source tree.root name)
  isDefaultExport : ∀ name, c.name = .str name → name ≠ "" →
    (c.isDefaultExport = true ↔ DefaultExpression s ∨ ExportsAsDefault tree.source tree.root name)

/-- The flags of all components of a file. -/
theorem classifyComponents_exportedAs (tree : SourceTree) :
    List.Forall₂ (ExportedAs tree) (declaringSites tree) (classifyComponents tree) := by
  rw [classifyComponents_eq_map, declaringSites]
  refine List.forall₂_map_right_iff.mpr (forall₂_found tree.root.sites fun s n found h => ?_)
  obtain ⟨hdefault, hnamed⟩ := flags_of_describe h
  have hmarked : ∀ {name} {isDefault}, found.name = .str name → name ≠ "" →
      ((fileExports tree.source tree.root).any (marks found isDefault) = true ↔
        ⟨name, isDefault⟩ ∈ fileExports tree.source tree.root) :=
    fun hc hname => any_marks_iff hc hname _
  refine ⟨⟨n, found, h, rfl⟩, fun name hc hname => ?_, fun name hc hname => ?_⟩
  · rw [← mem_fileExports_named hname, ← hmarked hc hname]
    simp [flagged, hnamed]
  · rw [← hdefault, ← mem_fileExports_default hname, ← hmarked hc hname]
    simp [flagged]

end JsxTagger.Classify
