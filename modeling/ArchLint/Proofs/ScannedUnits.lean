import ArchLint.Proofs.Metadata
import ArchLint.Proofs.PackageReferences
import ArchLint.Proofs.Records
import ArchLint.Proofs.SourceNames

namespace ArchLint

namespace Text

section Blanks

theorem lastAtMost_mem {α : Type} {key : α → Nat} {table : Array α} {n fuel lo hi : Nat}
    {entry : α} (h : lastAtMost key table n fuel lo hi = some entry) :
    entry ∈ table ∧ key entry ≤ n := by
  induction fuel generalizing lo hi with
  | zero => cases h
  | succ fuel ih =>
      rw [lastAtMost] at h
      split_ifs at h
      dsimp only at h
      split at h
      · cases h
      · rename_i middle hmiddle
        split_ifs at h with hkey
        · rcases Option.or_eq_some_iff.mp h with h | ⟨-, h⟩
          · exact ih h
          · cases h
            exact ⟨Array.mem_of_getElem? hmiddle, hkey⟩
        · exact ih h

/-- Whether no range of a table meets one of the given ranges. -/
def RangeTable.avoids (t : RangeTable) (ranges : List (Nat × Nat)) : Bool :=
  t.ranges.toList.all fun r => ranges.all fun b => Nat.blt r.2 b.1 || Nat.blt b.2 r.1

theorem RangeTable.contains_eq_false {t : RangeTable} {ranges : List (Nat × Nat)}
    (ht : t.avoids ranges = true) {b : Nat × Nat} (hb : b ∈ ranges) {n : Nat} (hlo : b.1 ≤ n)
    (hhi : n ≤ b.2) : t.contains n = false := by
  rw [Bool.eq_false_iff]
  intro hcontains
  unfold contains at hcontains
  split at hcontains
  · rename_i lo hi hentry
    obtain ⟨hmem, hle⟩ := lastAtMost_mem hentry
    have hapart := List.all_eq_true.mp (List.all_eq_true.mp ht _ (Array.mem_toList_iff.mpr hmem))
      b hb
    have hn : n ≤ hi := of_decide_eq_true hcontains
    simp only [Bool.or_eq_true, Nat.blt_eq] at hapart
    dsimp only at hle hapart
    omega
  · cases hcontains

def highBlanks : List (Nat × Nat) :=
  [(0x85, 0x85), (0xa0, 0xa0), (0x1680, 0x1680), (0x2000, 0x200a), (0x2028, 0x2029),
    (0x202f, 0x202f), (0x205f, 0x205f), (0x3000, 0x3000)]

theorem letters_avoid_blanks : letters.avoids highBlanks = true := by
  decide +kernel

theorem decimalDigits_avoid_blanks : decimalDigits.avoids highBlanks = true := by
  decide +kernel

theorem isBlank_cases {c : Char} (h : isBlank c = true) :
    c ∈ ['\t', '\n', '\x0b', '\x0c', '\r', ' '] ∨
      ∃ b ∈ highBlanks, b.1 ≤ c.toNat ∧ c.toNat ≤ b.2 := by
  simp only [isBlank, Bool.or_eq_true, beq_iff_eq, Bool.and_eq_true, decide_eq_true_eq,
    or_assoc] at h
  rcases h with rfl | rfl | rfl | rfl | rfl | rfl | rfl | rfl | rfl | ⟨hlow, hhigh⟩ | rfl | rfl |
    rfl | rfl | rfl
  case inr.inr.inr.inr.inr.inr.inr.inr.inr.inl =>
    exact .inr ⟨(0x2000, 0x200a), by decide, hlow, hhigh⟩
  all_goals decide

end Blanks

end Text

namespace Source

section Words

variable {x y p q : String}

theorem toNat_lt_of_isAlpha {c : Char} (h : c.isAlpha = true) : c.toNat < 0x80 := by
  rcases (Bool.or_eq_true _ _).mp h with hupper | hlower
  · have hle : c.toNat ≤ 'Z'.toNat := (of_decide_eq_true hupper).2
    exact hle.trans_lt (by decide)
  · have hle : c.toNat ≤ 'z'.toNat := of_decide_eq_true ((Bool.and_eq_true _ _).mp hlower).2
    exact hle.trans_lt (by decide)

theorem toNat_lt_of_isDigit {c : Char} (h : c.isDigit = true) : c.toNat < 0x80 := by
  have hle : c.toNat ≤ '9'.toNat := of_decide_eq_true ((Bool.and_eq_true _ _).mp h).2
  exact hle.trans_lt (by decide)

theorem isNameChar_high {c : Char} (h : isNameChar c = true) (hc : 0x80 ≤ c.toNat) :
    Text.isLetter c = true ∨ Text.isDecimalDigit c = true := by
  have halpha : ¬c.isAlpha = true := fun halpha => hc.not_gt (toNat_lt_of_isAlpha halpha)
  have hdigit : ¬c.isDigit = true := fun hdigit => hc.not_gt (toNat_lt_of_isDigit hdigit)
  have hne : c ≠ '_' := by
    rintro rfl
    revert hc
    decide
  simpa [isNameChar, isNameStart, halpha, hdigit, hne, hc] using h

theorem isNameChar_cases {c : Char} (h : isNameChar c = true) :
    Text.isBlank c = false ∧ c ≠ '.' ∧ c ≠ '/' := by
  refine ⟨?_, by rintro rfl; revert h; decide, by rintro rfl; revert h; decide⟩
  rw [Bool.eq_false_iff]
  intro hblank
  rcases Text.isBlank_cases hblank with hlow | ⟨b, hb, hlo, hhi⟩
  · have hascii : (['\t', '\n', '\x0b', '\x0c', '\r', ' '].all (!isNameChar ·)) = true := by
      decide
    have hc := List.all_eq_true.mp hascii c hlow
    rw [h] at hc
    cases hc
  · -- beyond ASCII only the tables decide
    have hhigh : ∀ b ∈ Text.highBlanks, 0x80 ≤ b.1 := by decide
    rcases isNameChar_high h ((hhigh b hb).trans hlo) with hletter | hdigit
    · rw [Text.isLetter, Text.RangeTable.contains_eq_false Text.letters_avoid_blanks hb hlo hhi]
        at hletter
      cases hletter
    · rw [Text.isDecimalDigit,
        Text.RangeTable.contains_eq_false Text.decimalDigits_avoid_blanks hb hlo hhi] at hdigit
      cases hdigit

theorem IsWord.isNameChar (hx : IsWord x) : ∀ c ∈ x.toList, isNameChar c = true := by
  obtain ⟨c, cs, hchars, hc, hcs⟩ := hx.spelled
  rw [hchars]
  refine List.forall_mem_cons.mpr ⟨?_, hcs⟩
  rw [Source.isNameChar, hc]
  rfl

theorem IsWord.isIdentifier (hx : IsWord x) : IsIdentifier x where
  nonempty := by
    obtain ⟨c, cs, hchars, -⟩ := hx.spelled
    rintro rfl
    cases hchars
  not_keyword := hx.not_keyword
  no_blank c hc := (isNameChar_cases (hx.isNameChar c hc)).1

theorem IsWord.no_dot (hx : IsWord x) : '.' ∉ x.toList := fun hdot =>
  (isNameChar_cases (hx.isNameChar _ hdot)).2.1 rfl

theorem IsWord.no_slash (hx : IsWord x) : '/' ∉ x.toList := fun hslash =>
  (isNameChar_cases (hx.isNameChar _ hslash)).2.2 rfl

theorem isPackagePath_of_trimmed (hp : p ≠ "") (htrimmed : Text.trimBlank p = p) :
    IsPackagePath p := by
  have hchars : Text.trimWhile Text.isBlank p.toList = p.toList := by
    rw [← String.toList_inj, Text.trimBlank, String.toList_ofList] at htrimmed
    exact htrimmed
  have hdrop := Text.dropWhile_trimWhile Text.isBlank p.toList
  rw [hchars] at hdrop
  cases hlist : p.toList with
  | nil => exact absurd (String.toList_eq_nil_iff.mp hlist) hp
  | cons c cs =>
      refine ⟨c, by rw [hlist]; rfl, ?_⟩
      rw [hlist, List.dropWhile_eq_self_iff] at hdrop
      simpa using hdrop

theorem qualified_inj (hx : '.' ∉ x.toList) (hy : '.' ∉ y.toList)
    (h : p ++ "." ++ x = q ++ "." ++ y) : p = q ∧ x = y := by
  have hlast : ∀ {s t : String}, '.' ∉ t.toList →
      ((s ++ "." ++ t).toList.reverse.takeWhile (· != '.')).reverse = t.toList := by
    intro s t ht
    rw [String.toList_append, String.toList_append]
    exact (Text.isCutAfter_concat s.toList ht).reverse_eq.2
  have hxy : x = y := by
    rw [← String.toList_inj, ← hlast hx, ← hlast hy, h]
  subst hxy
  exact ⟨(String.append_left_inj _).mp ((String.append_left_inj _).mp h), rfl⟩

end Words

end Source

namespace Graph

variable {g : Graph} {name scope : String}

/-- The graph has a unit of this name, recorded in this scope. -/
def Records (g : Graph) (name scope : String) : Prop :=
  ∃ u ∈ g.units, u.name = name ∧ u.scope = scope

theorem run_records (before : List Operation) {spec : UnitSpec} (hscope : spec.scope ≠ "")
    {after : List Operation}
    (hafter : ∀ other, .declare other ∈ after →
      Text.trimBlank other.name = Text.trimBlank spec.name → other.scope = spec.scope) :
    (run (before ++ .declare spec :: after)).Records (Text.trimBlank spec.name) spec.scope := by
  have hg := wellFormed_run before
  obtain ⟨u, hu, hscoped, hname⟩ := Analysis.declare_scope hg hscope
  have hdeclared := ((run before).declare_changes spec).wellFormed hg
  have hunit : ((run before).declare spec).1.unit? (Text.trimBlank spec.name) = some u :=
    hdeclared.units.lookup_eq_some_iff.mpr ⟨Array.mem_of_getElem? hu, hname⟩
  obtain ⟨v, hv, hfacts⟩ := exists_unit?_foldl_perform hdeclared hunit after
  have hlast : (run (before ++ .declare spec :: after)).unit? (Text.trimBlank spec.name) =
      some v := by
    rwa [run, List.foldl_append, List.foldl_cons]
  obtain ⟨hmem, hsame⟩ := (wellFormed_run _).units.lookup_eq_some_iff.mp hlast
  refine ⟨v, hmem, hsame, (congrArg CodeUnit.scope hfacts).trans ?_⟩
  refine (scope_foldl_merge fun other hother => ?_).trans hscoped
  obtain ⟨hoperation, hother⟩ := mem_declared_iff.mp hother
  exact (hafter other hoperation hother).trans hscoped.symm

end Graph

/-- What the unit of a declaration in a file of a package looks like. -/
structure UnitSpec.IsShaped (p path : String) (isMethod : Bool) (spec : UnitSpec) : Prop where
  scope : spec.scope = p
  name : spec.name = p ++ "." ++ spec.short
  short : Source.IsWord spec.short
  isAbstract : spec.isAbstract = if spec.kind = .interface then some true
    else if spec.kind = .struct then some false else none
  file : spec.file = if isMethod then "" else path
  kind : spec.kind = .unspecified ↔ isMethod = true

/-- A unit that some source file declares in a package. -/
def UnitSpec.IsScanned (p : String) (spec : UnitSpec) : Prop :=
  p ≠ "" ∧ Text.trimBlank p = p ∧ ∃ tags path bytes units,
    Source.unitsOfBytes? tags path p bytes = some units ∧ spec ∈ units

namespace Source

def Declaration.isMethod : Declaration → Bool
  | .function (_ :: _) _ _ _ _ => true
  | _ => false

theorem kindOf_isAbstract (t : Tree) : (kindOf t).2 = (if (kindOf t).1 = .interface then some true
    else if (kindOf t).1 = .struct then some false else none) ∧ (kindOf t).1 ≠ .unspecified := by
  unfold kindOf
  split <;> simp

theorem Declaration.IsNamed.isShaped {d : Declaration} (hd : d.IsNamed) {s : Scope}
    {tags : List DocTag} {path : String} {spec : UnitSpec} (hspec : spec ∈ d.units s tags path) :
    spec.IsShaped s.package path d.isMethod := by
  cases d with
  | type name parameters t doc =>
      obtain ⟨habstract, hkind⟩ := kindOf_isAbstract t
      cases List.mem_singleton.mp hspec
      exact ⟨rfl, rfl, hd, habstract, rfl, iff_of_false hkind (by simp [isMethod])⟩
  | values isConstant names ts vs doc =>
      obtain ⟨name, hname, rfl⟩ := List.mem_map.mp hspec
      refine ⟨rfl, rfl, hd name (List.mem_filter.mp hname).1, ?_, rfl, ?_⟩
      · cases isConstant <;> rfl
      · cases isConstant <;> simp [isMethod]
  | function receiver name signature body doc =>
      cases receiver with
      | nil =>
          cases List.mem_singleton.mp hspec
          exact ⟨rfl, rfl, hd.1, rfl, rfl, by simp [isMethod]⟩
      | cons field rest =>
          obtain ⟨owner, howner, rfl⟩ := Option.map_eq_some_iff.mp (Option.mem_toList.mp hspec)
          refine ⟨rfl, rfl, ?_, rfl, rfl, by simp [isMethod, Scope.unit]⟩
          exact hd.2 field List.mem_cons_self owner howner

theorem isNamed_of_ofBytes? {bytes : ByteArray} {file : File}
    (h : (Text.ofBytes? bytes).bind File.ofText? = some file) :
    ∀ d ∈ file.declarations, d.IsNamed := by
  obtain ⟨text, -, hfile⟩ := Option.bind_eq_some_iff.mp h
  exact File.isNamed_of_ofText? hfile

end Source

section Scanned

open ArchLint.Source ArchLint.Graph

variable {p q : String} {spec other : UnitSpec}

theorem UnitSpec.IsScanned.exists_isShaped (h : spec.IsScanned p) :
    ∃ path isMethod, spec.IsShaped p path isMethod := by
  obtain ⟨-, -, tags, path, bytes, units, hunits, hspec⟩ := h
  rw [unitsOfBytes?_eq] at hunits
  obtain ⟨file, hfile, rfl⟩ := Option.map_eq_some_iff.mp hunits
  obtain ⟨d, hd, hspec⟩ := List.mem_flatMap.mp hspec
  exact ⟨path, d.isMethod, (isNamed_of_ofBytes? hfile d hd).isShaped hspec⟩

theorem UnitSpec.IsScanned.trimBlank_name (h : spec.IsScanned p) :
    Text.trimBlank spec.name = spec.name := by
  obtain ⟨path, isMethod, hshape⟩ := h.exists_isShaped
  rw [hshape.name]
  exact (isPackagePath_of_trimmed h.1 h.2.1).trimBlank_qualified hshape.short.isIdentifier

theorem UnitSpec.IsScanned.package_eq (h : spec.IsScanned p) (h' : other.IsScanned q)
    (hname : other.name = spec.name) : q = p := by
  obtain ⟨_, _, hshape⟩ := h.exists_isShaped
  obtain ⟨_, _, hshape'⟩ := h'.exists_isShaped
  rw [hshape.name, hshape'.name] at hname
  exact (qualified_inj hshape'.short.no_dot hshape.short.no_dot hname).1

theorem CodeUnit.slashName_eq {u : CodeUnit} {x : String} (hscope : u.scope ≠ "")
    (hname : u.name = u.scope ++ "." ++ x) (hx : '.' ∉ x.toList) :
    u.slashName = u.scope ++ "/" ++ x := by
  have hsame : x.toList.map (fun c => if c = '.' then '/' else c) = x.toList := by
    conv_rhs => rw [← List.map_id x.toList]
    exact List.map_congr_left fun c hc => if_neg (ne_of_mem_of_not_mem hc hx)
  have hempty : u.scope.isEmpty = false := by simpa using hscope
  simp only [slashName, splitName_eq hscope hname, hsame, hempty, Bool.false_eq_true, if_false,
    String.ofList_toList]

/-- The units of a file have the same shape for every form of declaration, and
a unit that is declared as they say keeps its package, whatever happens before
and after. -/
theorem scanned_specs_keep_package :
    (∀ (tags : List DocTag) (path p : String) (bytes : ByteArray) (file : File),
      (Text.ofBytes? bytes).bind File.ofText? = some file →
      unitsOfBytes? tags path p bytes =
          some (file.declarations.flatMap (Declaration.units (.ofFile p file) tags path)) ∧
        ∀ d ∈ file.declarations, ∀ spec ∈ d.units (.ofFile p file) tags path,
          spec.IsShaped p path d.isMethod ∧ '.' ∉ spec.short.toList ∧ '/' ∉ spec.short.toList) ∧
    ∀ (p : String) (spec : UnitSpec) (before after : List Operation), spec.IsScanned p →
      (∀ other, .declare other ∈ after → Text.trimBlank other.name = spec.name →
        ∃ q, other.IsScanned q) →
      ∃ u, (run (before ++ .declare spec :: after)).unit? spec.name = some u ∧
        u.declaredScope = p ∧ u.slashName = p ++ "/" ++ spec.short ∧ u.isGlobal = false := by
  refine ⟨?_, ?_⟩
  · intro tags path p bytes file hfile
    refine ⟨by rw [unitsOfBytes?_eq, hfile]; rfl, fun d hd spec hspec => ?_⟩
    have hshape := (isNamed_of_ofBytes? hfile d hd).isShaped hspec
    exact ⟨hshape, hshape.short.no_dot, hshape.short.no_slash⟩
  · intro p spec before after hspec hafter
    obtain ⟨_, _, hshape⟩ := hspec.exists_isShaped
    have hrecords : (run (before ++ .declare spec :: after)).Records spec.name p := by
      rw [← hspec.trimBlank_name, ← hshape.scope]
      refine run_records before (hshape.scope ▸ hspec.1) fun other hother hname => ?_
      rw [hspec.trimBlank_name] at hname
      obtain ⟨q, hq⟩ := hafter other hother hname
      obtain ⟨_, _, hshape'⟩ := hq.exists_isShaped
      rw [hshape.scope, hshape'.scope]
      exact hspec.package_eq hq (hq.trimBlank_name ▸ hname)
    obtain ⟨u, hu, hname, hscope⟩ := hrecords
    have hne : u.scope ≠ "" := hscope ▸ hspec.1
    have hqualified : u.name = u.scope ++ "." ++ spec.short := by
      rw [hname, hscope, hshape.name]
    have hdeclared : u.declaredScope = p := (CodeUnit.declaredScope_eq hne hqualified).trans hscope
    refine ⟨u, ?_, hdeclared, ?_, ?_⟩
    · exact (wellFormed_run _).units.lookup_eq_some_iff.mpr ⟨hu, hname⟩
    · rw [CodeUnit.slashName_eq hne hqualified hshape.short.no_dot, hscope]
    · rw [CodeUnit.isGlobal, hdeclared]
      simp [hspec.1]

/-- A method that comes before its type. -/
def nodeText : String :=
  "package core\nfunc (n *Node) Run() \x7b\x7d\ntype Node struct\x7b\x7d\n"

def isNodeFile : File → Bool
  | ⟨[], [.function [.field _ (.node .star [.name "Node"])] "Run" _ _ _,
      .type "Node" _ (.node .record _) _]⟩ => true
  | _ => false

theorem node_parse : ∃ file, File.ofText? nodeText = some file ∧ isNodeFile file = true := by
  have hparse : (File.ofText? nodeText).any isNodeFile = true := by decide +kernel
  exact (Option.any_eq_true _ _).mp hparse

/-- The name alone would suggest another package. -/
theorem scanned_specs_keep_package_node :
    (Name.split "example.com/app.core.Node").1 = "example.com/app" ∧
      ∃ method type : UnitSpec, method.IsScanned "example.com/app.core" ∧
        type.IsScanned "example.com/app.core" ∧ method.file = "" ∧ type.file = "node.go" ∧
        ∃ u, (run [.declare method, .declare type]).unit? "example.com/app.core.Node" = some u ∧
          u.declaredScope = "example.com/app.core" ∧
          u.slashName = "example.com/app.core/Node" := by
  obtain ⟨file, hfile, hnode⟩ := node_parse
  have hparse : (Text.ofBytes? (Text.toBytes nodeText)).bind File.ofText? = some file := by
    rw [Text.ofBytes?_toBytes, Option.bind_some, hfile]
  obtain ⟨hunits, hshapes⟩ := scanned_specs_keep_package.1 [] "node.go" "example.com/app.core" _ _
    hparse
  have hscanned : ∀ d ∈ file.declarations,
      ∀ spec ∈ d.units (.ofFile "example.com/app.core" file) [] "node.go",
        spec.IsScanned "example.com/app.core" := by
    intro d hd spec hspec
    exact ⟨by decide, by decide, _, _, _, _, hunits, List.mem_flatMap.mpr ⟨d, hd, hspec⟩⟩
  unfold isNodeFile at hnode
  split at hnode
  · refine ⟨by decide, ?_⟩
    have hmethod := hscanned _ (.head _) _ (.head _)
    have htype := hscanned _ (.tail _ (.head _)) _ (.head _)
    refine ⟨_, _, hmethod, htype, rfl, rfl, ?_⟩
    obtain ⟨u, hu, hscope, hslash, -⟩ := scanned_specs_keep_package.2 _ _ [] [.declare _] hmethod
      fun other hother _ => ⟨_, by cases List.mem_singleton.mp hother; exact htype⟩
    exact ⟨u, hu, hscope, hslash⟩
  · cases hnode

end Scanned

end ArchLint
