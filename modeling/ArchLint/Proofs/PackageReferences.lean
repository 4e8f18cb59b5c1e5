import ArchLint.Source.Units
import ArchLint.Proofs.Distinct
import ArchLint.Proofs.UndeclaredNames

namespace ArchLint

namespace Text

theorem trimBlank_eq_self {s : String} {a b : Char} (ha : s.toList.head? = some a)
    (hb : s.toList.getLast? = some b) (hablank : isBlank a = false)
    (hbblank : isBlank b = false) : trimBlank s = s := by
  have hhead : ∀ c ∈ s.toList.head?, isBlank c = false := by
    intro c hc
    rwa [Option.some.inj (ha.symm.trans hc)] at hablank
  have hlast : ∀ c ∈ s.toList.getLast?, isBlank c = false := by
    intro c hc
    rwa [Option.some.inj (hb.symm.trans hc)] at hbblank
  rw [trimBlank, trimWhile_eq_self hhead hlast, String.ofList_toList]

end Text

namespace Source

/-- What matters about identifiers: they are neither empty nor keywords, and
there are no blanks in them. -/
structure IsIdentifier (x : String) : Prop where
  nonempty : x ≠ ""
  not_keyword : x ∉ keywords
  no_blank : ∀ c ∈ x.toList, Text.isBlank c = false

/-- What matters about the path of a package: it starts with a character that
is not blank. -/
def IsPackagePath (p : String) : Prop :=
  ∃ c, p.toList.head? = some c ∧ Text.isBlank c = false

/-- The names that the language declares itself. -/
def universalNames : List String :=
  ["any", "bool", "byte", "comparable", "complex64", "complex128", "error", "float32", "float64",
    "int", "int8", "int16", "int32", "int64", "rune", "string", "uint", "uint8", "uint16",
    "uint32", "uint64", "uintptr", "true", "false", "iota", "nil", "append", "cap", "clear",
    "close", "complex", "copy", "delete", "imag", "len", "make", "max", "min", "new", "panic",
    "print", "println", "real", "recover"]

/-- Words that stand for types in comments but are no types of the language. -/
def commentTypes : List String :=
  ["mixed", "void", "null", "object", "array"]

/-- A file imports a package under a name. -/
def File.Imports (file : File) (name : String) : Prop :=
  ∃ i ∈ file.imports, Scope.localName? i = some name

/-- An identifier occurs in a tree of a file in a position where it refers to
something: it is no name of a field, parameter or local declaration, no member,
no label and no bare key, it stands not on the left of a short declaration, and
it does not qualify a member of an import. -/
inductive Tree.Refers (file : File) (x : String) : Tree → Prop
  | name : Refers file x (.name x)
  | operand {t : Tree} {member : String} (ht : Refers file x t)
      (hqualifier : ∀ y, t = .name y → ¬file.Imports y) : Refers file x (.selector t member)
  | fieldType {names : List String} {t : Tree} (ht : Refers file x t) :
      Refers file x (.field names t)
  | key {k v : Tree} (hk : Refers file x k) (hbare : ∀ y, k ≠ .name y) :
      Refers file x (.keyed k v)
  | keyedValue {k v : Tree} (hv : Refers file x v) : Refers file x (.keyed k v)
  | definedValue {targets values : List Tree} {v : Tree} (hmem : v ∈ values)
      (hv : Refers file x v) : Refers file x (.define targets values)
  | rangeOperand {targets : List Tree} {t body : Tree} (ht : Refers file x t) :
      Refers file x (.rangeDefine targets t body)
  | rangeBody {targets : List Tree} {t body : Tree} (hbody : Refers file x body) :
      Refers file x (.rangeDefine targets t body)
  | declaredType {names : List String} {types values : List Tree} {t : Tree} (hmem : t ∈ types)
      (ht : Refers file x t) : Refers file x (.values names types values)
  | declaredValue {names : List String} {types values : List Tree} {v : Tree}
      (hmem : v ∈ values) (hv : Refers file x v) : Refers file x (.values names types values)
  | typeParameter {name : String} {parameters : List Tree} {t type : Tree}
      (hmem : t ∈ parameters) (ht : Refers file x t) : Refers file x (.typed name parameters type)
  | typeDefinition {name : String} {parameters : List Tree} {type : Tree}
      (htype : Refers file x type) : Refers file x (.typed name parameters type)
  | labeled {label : String} {body : Tree} (hbody : Refers file x body) :
      Refers file x (.labeled label body)
  | part {shape : Shape} {parts : List Tree} {t : Tree} (hmem : t ∈ parts)
      (ht : Refers file x t) : Refers file x (.node shape parts)

namespace Declaration

/-- The trees of a declaration, comments apart. -/
def code : Declaration → List Tree
  | .type _ parameters t _ => parameters ++ [t]
  | .values _ _ ts vs _ => ts ++ vs
  | .function receiver _ signature body _ => receiver ++ signature ++ body.toList

/-- The symbol to which a declaration contributes. A method contributes to the
type of its receiver. -/
inductive ContributesTo : Declaration → String → Prop
  | type {name : String} {parameters : List Tree} {t : Tree} {doc : List String} :
      ContributesTo (.type name parameters t doc) name
  | value {isConstant : Bool} {names : List String} {ts vs : List Tree} {doc : List String}
      {name : String} (hmem : name ∈ names) (hblank : name ≠ "_") :
      ContributesTo (.values isConstant names ts vs doc) name
  | function {name : String} {signature : List Tree} {body : Option Tree} {doc : List String} :
      ContributesTo (.function [] name signature body doc) name
  | method {receiver : Tree} {receivers : List Tree} {name : String} {signature : List Tree}
      {body : Option Tree} {doc : List String} {owner : String}
      (howner : receiverName? (fieldType receiver) = some owner) :
      ContributesTo (.function (receiver :: receivers) name signature body doc) owner

/-- The symbols that a declaration brings into its package. -/
inductive Declares : Declaration → String → Prop
  | type {name : String} {parameters : List Tree} {t : Tree} {doc : List String} :
      Declares (.type name parameters t doc) name
  | value {isConstant : Bool} {names : List String} {ts vs : List Tree} {doc : List String}
      {name : String} (hmem : name ∈ names) : Declares (.values isConstant names ts vs doc) name
  | function {name : String} {signature : List Tree} {body : Option Tree} {doc : List String} :
      Declares (.function [] name signature body doc) name

/-- An identifier refers to something in the code of a declaration. -/
def Refers (file : File) (d : Declaration) (x : String) : Prop :=
  ∃ t ∈ d.code, t.Refers file x

/-- The declaration stands in a scanned file of a package. -/
def IsScanned (tags : List DocTag) (p : String) (files : List ScannedFile) (file : File)
    (d : Declaration) : Prop :=
  d ∈ file.declarations ∧ ∃ scanned ∈ files, ∃ path bytes,
    (Text.ofBytes? bytes).bind File.ofText? = some file ∧
      unitsOfBytes? tags path p bytes = some scanned.units

end Declaration

section Walking

variable {file : File} {x p : String}

theorem Tree.mem_mentionsAll {m : Mention} {ts : List Tree} :
    m ∈ Tree.mentionsAll ts ↔ ∃ t ∈ ts, m ∈ t.mentions := by
  induction ts with
  | nil => simp [Tree.mentionsAll]
  | cons t ts ih => simp [Tree.mentionsAll, ih]

/-- A mention that refers to whatever an identifier does. -/
def Mention.Means (file : File) (x : String) : Mention → Prop
  | .name y => y = x
  | .member y _ => y = x ∧ ¬file.Imports y

/-- Every reference is mentioned: the walk reaches all positions where an
identifier refers to something. -/
theorem Tree.Refers.exists_mention {t : Tree} (h : t.Refers file x) :
    ∃ m ∈ t.mentions, m.Means file x := by
  induction h with
  | name => exact ⟨.name x, by simp [Tree.mentions], rfl⟩
  | @operand t member ht hqualifier ih =>
      by_cases hbare : ∃ y, t = .name y
      · obtain ⟨y, rfl⟩ := hbare
        cases ht
        exact ⟨.member x member, by simp [Tree.mentions], rfl, hqualifier x rfl⟩
      · rw [Tree.mentions]
        · exact ih
        · exact fun y hy => hbare ⟨y, hy⟩
  | fieldType _ ih => simpa only [Tree.mentions] using ih
  | @key k v _ hbare ih =>
      obtain ⟨m, hm, hmeans⟩ := ih
      refine ⟨m, ?_, hmeans⟩
      rw [Tree.mentions]
      · exact List.mem_append_left _ hm
      · exact hbare
  | @keyedValue k v _ ih =>
      obtain ⟨m, hm, hmeans⟩ := ih
      refine ⟨m, ?_, hmeans⟩
      cases k <;> simp [Tree.mentions, hm]
  | definedValue hmem _ ih =>
      obtain ⟨m, hm, hmeans⟩ := ih
      exact ⟨m, by rw [Tree.mentions]; exact Tree.mem_mentionsAll.mpr ⟨_, hmem, hm⟩, hmeans⟩
  | rangeOperand _ ih =>
      obtain ⟨m, hm, hmeans⟩ := ih
      exact ⟨m, by rw [Tree.mentions]; exact List.mem_append_left _ hm, hmeans⟩
  | rangeBody _ ih =>
      obtain ⟨m, hm, hmeans⟩ := ih
      exact ⟨m, by rw [Tree.mentions]; exact List.mem_append_right _ hm, hmeans⟩
  | declaredType hmem _ ih =>
      obtain ⟨m, hm, hmeans⟩ := ih
      refine ⟨m, ?_, hmeans⟩
      rw [Tree.mentions]
      exact List.mem_append_left _ (Tree.mem_mentionsAll.mpr ⟨_, hmem, hm⟩)
  | declaredValue hmem _ ih =>
      obtain ⟨m, hm, hmeans⟩ := ih
      refine ⟨m, ?_, hmeans⟩
      rw [Tree.mentions]
      exact List.mem_append_right _ (Tree.mem_mentionsAll.mpr ⟨_, hmem, hm⟩)
  | typeParameter hmem _ ih =>
      obtain ⟨m, hm, hmeans⟩ := ih
      refine ⟨m, ?_, hmeans⟩
      rw [Tree.mentions]
      exact List.mem_append_left _ (Tree.mem_mentionsAll.mpr ⟨_, hmem, hm⟩)
  | typeDefinition _ ih =>
      obtain ⟨m, hm, hmeans⟩ := ih
      exact ⟨m, by rw [Tree.mentions]; exact List.mem_append_right _ hm, hmeans⟩
  | labeled _ ih => simpa only [Tree.mentions] using ih
  | part hmem _ ih =>
      obtain ⟨m, hm, hmeans⟩ := ih
      exact ⟨m, by rw [Tree.mentions]; exact Tree.mem_mentionsAll.mpr ⟨_, hmem, hm⟩, hmeans⟩

theorem Scope.import?_eq_none (h : ¬file.Imports x) : (Scope.ofFile p file).import? x = none := by
  rw [Scope.import?, Option.map_eq_none_iff, List.find?_eq_none]
  rintro ⟨name, path⟩ hmem hname
  obtain ⟨i, hi, hlocal⟩ := List.mem_filterMap.mp (List.mem_reverse.mp hmem)
  obtain ⟨name', hname', heq⟩ := Option.map_eq_some_iff.mp hlocal
  cases heq
  obtain rfl : name = x := beq_iff_eq.mp hname
  exact h ⟨i, hi, hname'⟩

theorem Mention.Means.resolve?_eq {m : Mention} (h : m.Means file x) :
    (Scope.ofFile p file).resolve? m = (Scope.ofFile p file).resolveName? x := by
  cases m with
  | name y =>
      obtain rfl : y = x := h
      rfl
  | member y member =>
      obtain ⟨rfl, himports⟩ : y = x ∧ ¬file.Imports y := h
      simp only [Scope.resolve?, Scope.import?_eq_none himports]

end Walking

section Units

variable {tags : List DocTag} {d : Declaration} {x : String}

theorem Declaration.ContributesTo.exists_unit {owner : String} (h : d.ContributesTo owner)
    (s : Scope) (tags : List DocTag) (path : String) :
    ∃ spec ∈ d.units s tags path, spec.scope = s.package ∧ spec.name = s.qualify owner ∧
      ∀ m ∈ Tree.mentionsAll d.code, ∀ name, s.resolve? m = some name →
        name ∈ spec.references := by
  have hreferences : ∀ trees doc, ∀ m ∈ Tree.mentionsAll trees, ∀ name,
      s.resolve? m = some name → name ∈ s.references tags trees doc := by
    intro trees doc m hm name hname
    rw [Scope.references, Text.mem_distinct]
    exact List.mem_append_left _ (List.mem_filterMap.mpr ⟨m, hm, hname⟩)
  cases h with
  | type => exact ⟨_, List.mem_singleton_self _, rfl, rfl, hreferences _ _⟩
  | @value _ names ts vs doc _ hmem hblank =>
      have hnamed : owner ∈ names.filter (· != "_") := by simp [hmem, hblank]
      exact ⟨_, List.mem_map_of_mem hnamed, rfl, rfl, hreferences _ _⟩
  | function => exact ⟨_, List.mem_singleton_self _, rfl, rfl, hreferences _ _⟩
  | method howner =>
      simp only [Declaration.units, howner]
      exact ⟨_, List.mem_singleton_self _, rfl, rfl, hreferences _ _⟩

theorem Declaration.Declares.contributesTo (h : d.Declares x) (hx : x ≠ "_") :
    d.ContributesTo x := by
  cases h with
  | type => exact .type
  | value hmem => exact .value hmem hx
  | function => exact .function

variable {p : String} {files : List ScannedFile} {file : File}

theorem unitsOfBytes?_eq (tags : List DocTag) (path p : String) (bytes : ByteArray) :
    unitsOfBytes? tags path p bytes =
      ((Text.ofBytes? bytes).bind File.ofText?).map (File.units tags path p) := by
  rw [Option.map_bind]
  rfl

theorem Declaration.IsScanned.exists_path (h : d.IsScanned tags p files file) :
    ∃ path, ∀ spec ∈ d.units (.ofFile p file) tags path, spec ∈ Analysis.specsOf files := by
  obtain ⟨hd, scanned, hscanned, path, bytes, hparse, hunits⟩ := h
  refine ⟨path, ?_⟩
  intro spec hspec
  have hfile : file.units tags path p = scanned.units := by
    rw [unitsOfBytes?_eq, hparse, Option.map_some] at hunits
    exact Option.some.inj hunits
  refine List.mem_flatMap.mpr ⟨scanned, (List.mergeSort_perm files _).mem_iff.mpr hscanned, ?_⟩
  rw [← hfile]
  exact List.mem_flatMap.mpr ⟨d, hd, hspec⟩

end Units

section Names

variable {p x : String}

theorem IsPackagePath.ne_empty (hp : IsPackagePath p) : p ≠ "" := by
  rintro rfl
  obtain ⟨c, hc, -⟩ := hp
  simp at hc

theorem IsPackagePath.trimBlank_qualified (hp : IsPackagePath p) (hx : IsIdentifier x) :
    Text.trimBlank (p ++ "." ++ x) = p ++ "." ++ x := by
  obtain ⟨a, ha, hablank⟩ := hp
  have hchars : (p ++ "." ++ x).toList = p.toList ++ ('.' :: x.toList) := by
    simp [String.toList_append]
  obtain ⟨b, hb⟩ : ∃ b, x.toList.getLast? = some b := by
    have hne : x.toList ≠ [] := by simpa using hx.nonempty
    exact ⟨_, List.getLast?_eq_some_getLast hne⟩
  refine Text.trimBlank_eq_self (a := a) (b := b) ?_ ?_ hablank
    (hx.no_blank b (List.mem_of_getLast? hb))
  · rw [hchars, List.head?_append, ha]
    rfl
  · rw [hchars, List.getLast?_append, List.getLast?_cons, hb]
    rfl

theorem isPredeclared_eq_false (hx : IsIdentifier x) (huniversal : x ∉ universalNames)
    (hcomment : x ∉ commentTypes) : Name.isPredeclared x = false := by
  have hknown : ∀ y ∈ Name.predeclaredTypes ++ Name.predeclaredValues,
      y ∈ universalNames ++ commentTypes ++ keywords := by
    decide
  rw [Bool.eq_false_iff]
  intro hpredeclared
  have hmem : x ∈ Name.predeclaredTypes ++ Name.predeclaredValues := by
    simpa [Name.isPredeclared, Name.isPredeclaredType] using hpredeclared
  simpa [huniversal, hcomment, hx.not_keyword] using hknown x hmem

theorem mem_commentTypes (hx : x ∈ commentTypes) : Name.isPredeclaredType x = true ∧
    Text.trimBlank x = x ∧ (Name.split x).1 = "" ∧ '.' ∉ x.toList := by
  revert x
  decide

end Names

end Source

namespace Analysis

open ArchLint.Source

theorem IsLinked.dependsOn_of_spec {files : List ScannedFile} {start g : Graph}
    (h : IsLinked files start g) {spec : UnitSpec} (hspec : spec ∈ specsOf files)
    (hqualified : spec.IsQualified) (name : String) (hname : name ∈ spec.references)
    (htrimmed : Text.trimBlank name = name) (hblank : name ≠ "") (hself : name ≠ spec.name)
    (hlinks : (∃ spec' ∈ specsOf files, spec'.name = name) ∨
      (Name.split name).1 ≠ spec.scope) :
    g.sealed.DependsOn spec.name name := by
  obtain ⟨before, after, hsplit⟩ := List.append_of_mem hspec
  have hmem := mem_references start hsplit hname
  have hscope := scopeOf_qualified (declared_extends h.wellFormed before).1.wellFormed hqualified
  have hedge := h.dependsOn_of_mem hmem
  simp only [Mention.target, htrimmed, hqualified.trimmed, Reference.IsForeign, hscope] at hedge
  refine hedge hblank hself (hlinks.imp_left ?_)
  rintro ⟨spec', hspec', rfl⟩
  exact ⟨spec', hspec', htrimmed⟩

/-- References inside a package become edges. If the code of a declaration that
contributes to the symbol `a` refers to an identifier that its package declares,
the unit of `a` depends on the unit of that identifier; but words that stand for
types in comments are taken for predeclared types. -/
theorem build_package_references {c : Config} (hc : c.faults = []) (tags : List DocTag)
    {p : String} (hp : IsPackagePath p) (files : List ScannedFile) :
    ∃ g, build c files = .ok g ∧
      ∀ (file : File) (d : Declaration) (a x : String), d.IsScanned tags p files file →
        d.ContributesTo a → d.Refers file x →
        ∀ (file' : File) (d' : Declaration), d'.IsScanned tags p files file' → d'.Declares x →
          IsIdentifier a → IsIdentifier x → x ≠ a → x ≠ "_" → x ∉ universalNames →
          (x ∉ commentTypes → g.DependsOn (p ++ "." ++ a) (p ++ "." ++ x)) ∧
            (x ∈ commentTypes → g.DependsOn (p ++ "." ++ a) x) := by
  obtain ⟨start, g, -, hbuild, h⟩ := build_isLinked hc files
  refine ⟨g.sealed, hbuild, ?_⟩
  intro file d a x hd ha hrefers file' d' hd' hx hida hidx hne hunderscore huniversal
  obtain ⟨path, hspecs⟩ := hd.exists_path
  obtain ⟨spec, hspec, hscope, hname, hreferences⟩ :=
    ha.exists_unit (.ofFile p file) tags path
  have hname : spec.name = p ++ "." ++ a := hname
  have hscope : spec.scope = p := hscope
  have hqualified : spec.IsQualified := by
    refine ⟨hscope ▸ hp.ne_empty, ⟨a, by rw [hname, hscope]⟩, ?_⟩
    rw [hname, hp.trimBlank_qualified hida]
  have hreferred : ∀ name, (Scope.ofFile p file).resolveName? x = some name →
      name ∈ spec.references := by
    intro name hresolved
    obtain ⟨t, ht, htrefers⟩ := hrefers
    obtain ⟨m, hm, hmeans⟩ := htrefers.exists_mention
    exact hreferences m (Tree.mem_mentionsAll.mpr ⟨t, ht, hm⟩) name
      (hmeans.resolve?_eq.trans hresolved)
  have hedge := h.dependsOn_of_spec (hspecs spec hspec) hqualified
  rw [hname, hscope] at hedge
  constructor
  · intro hcomment
    have hpredeclared := isPredeclared_eq_false hidx huniversal hcomment
    have htype : Name.isPredeclaredType x = false := (Bool.or_eq_false_iff.mp hpredeclared).1
    refine hedge _ (hreferred _ ?_) (hp.trimBlank_qualified hidx) (by simp) ?_ (.inl ?_)
    · simp [Scope.resolveName?, hunderscore, hpredeclared, htype]
      rfl
    · intro hself
      exact hne (String.append_right_inj _ |>.mp hself)
    · -- the package declares the name in one of its files
      obtain ⟨path', hspecs'⟩ := hd'.exists_path
      obtain ⟨spec', hspec', -, hname', -⟩ := (hx.contributesTo hunderscore).exists_unit
        (.ofFile p file') tags path'
      exact ⟨spec', hspecs' spec' hspec', hname'⟩
  · intro hcomment
    obtain ⟨htype, htrimmed, hsplit, hdot⟩ := mem_commentTypes hcomment
    refine hedge x (hreferred x ?_) htrimmed hidx.nonempty ?_ (.inr ?_)
    · simp [Scope.resolveName?, hunderscore, htype]
    · rintro rfl
      exact hdot (by simp [String.toList_append])
    · rw [hsplit]
      exact hp.ne_empty.symm

/-- A function that refers to two types of its package; the name of the second
is also a word from comments. -/
def runText : String :=
  "package m\ntype Port struct\x7b\x7d\ntype object struct\x7b\x7d\n" ++
    "func Run(p Port, o object) \x7b\x7d\n"

/-- The scan of its only file. -/
def runFiles : List ScannedFile :=
  [{ path := some "m.go", units := (unitsOfText? [] "m.go" "app/m" runText).getD [] }]

/-- Whether a file consists of the declarations of `runText`. -/
def isRunFile : File → Bool
  | ⟨[], [.type "Port" [] _ _, .type "object" [] _ _,
      .function [] "Run" [.field _ (.name "Port"), .field _ (.name "object")]
        (some (.node .statement [])) _]⟩ => true
  | _ => false

theorem run_parse : ∃ file, File.ofText? runText = some file ∧ isRunFile file = true := by
  have hparse : (File.ofText? runText).any isRunFile = true := by decide +kernel
  exact (Option.any_eq_true _ _).mp hparse

theorem run_scanned :
    ∃ (file : File) (port object run : Declaration), port.IsScanned [] "app/m" runFiles file ∧
      object.IsScanned [] "app/m" runFiles file ∧ run.IsScanned [] "app/m" runFiles file ∧
      port.Declares "Port" ∧ object.Declares "object" ∧ run.ContributesTo "Run" ∧
      run.Refers file "Port" ∧ run.Refers file "object" ∧
      ∀ spec ∈ specsOf runFiles, Text.trimBlank spec.name = "app/m.Run" →
        spec.references = ["app/m.Port", "object"] := by
  obtain ⟨file, hfile, hshape⟩ := run_parse
  have hbytes : Text.ofBytes? (Text.toBytes runText) = some runText := by
    rw [Text.ofBytes?, Text.toBytes, String.fromUTF8?, String.toUTF8_eq_toByteArray,
      dif_pos runText.isValidUTF8]
    rfl
  have hunits : unitsOfText? [] "m.go" "app/m" runText = some (file.units [] "m.go" "app/m") := by
    rw [unitsOfText?, hfile]
    rfl
  have hscanned : ∀ d ∈ file.declarations, d.IsScanned [] "app/m" runFiles file := by
    intro d hd
    refine ⟨hd, _, List.mem_singleton_self _, "m.go", Text.toBytes runText, ?_, ?_⟩
    · rw [hbytes, Option.bind_some, hfile]
    · rw [unitsOfBytes?, hbytes, Option.bind_some, hunits]
      rfl
  have hspecs : specsOf runFiles = file.units [] "m.go" "app/m" := by
    simp [specsOf, inOrder, runFiles, hunits]
  unfold isRunFile at hshape
  split at hshape
  · refine ⟨_, _, _, _, hscanned _ (.head _), hscanned _ (.tail _ (.head _)),
      hscanned _ (.tail _ (.tail _ (.head _))), .type, .type, .function, ?_, ?_, ?_⟩
    · exact ⟨_, List.mem_append_left _ (.head _), .fieldType .name⟩
    · exact ⟨_, List.mem_append_left _ (.tail _ (.head _)), .fieldType .name⟩
    · rw [hspecs]
      intro spec hspec hname
      simp only [File.units, Declaration.units, List.flatMap_cons, List.flatMap_nil,
        List.append_nil, List.mem_append, List.mem_singleton] at hspec
      rcases hspec with rfl | rfl | rfl
      · have hport : Text.trimBlank ("app/m" ++ "." ++ "Port") = "app/m.Run" := hname
        exact absurd hport (by decide)
      · have hobject : Text.trimBlank ("app/m" ++ "." ++ "object") = "app/m.Run" := hname
        exact absurd hobject (by decide)
      · have hresolved : (Scope.mk "app/m" []).resolveName? "Port" = some "app/m.Port" ∧
            (Scope.mk "app/m" []).resolveName? "object" = some "object" := by
          decide
        simp [Scope.unit, Scope.references, Scope.ofFile, Scope.resolve?, DocTag.union,
          DocTag.merge_nil, Tree.mentionsAll, Tree.mentions, Text.distinct, hresolved]
  · cases hshape

theorem run_identifiers : ∀ x ∈ ["Run", "Port", "object"], IsIdentifier x := by
  intro x hx
  have hfacts : x ≠ "" ∧ x ∉ keywords ∧ x.toList.all (!Text.isBlank ·) = true := by
    revert x
    decide
  refine ⟨hfacts.1, hfacts.2.1, fun c hc => ?_⟩
  simpa using List.all_eq_true.mp hfacts.2.2 c hc

theorem build_package_references_run :
    (⟨[]⟩ : Config).faults = [] ∧ IsPackagePath "app/m" ∧
      ∃ g, build ⟨[]⟩ runFiles = .ok g ∧ g.DependsOn "app/m.Run" "app/m.Port" ∧
        g.DependsOn "app/m.Run" "object" := by
  have hpath : IsPackagePath "app/m" := ⟨'a', by decide, by decide⟩
  obtain ⟨file, port, object, run, hport, hobject, hrun, hdport, hdobject, hcontributes, hrport,
    hrobject, -⟩ := run_scanned
  obtain ⟨g, hbuild, hg⟩ := build_package_references (c := ⟨[]⟩) rfl [] hpath runFiles
  refine ⟨rfl, hpath, g, hbuild, ?_, ?_⟩
  · exact (hg file run "Run" "Port" hrun hcontributes hrport file port hport hdport
      (run_identifiers _ (by decide)) (run_identifiers _ (by decide)) (by decide) (by decide)
      (by decide)).1 (by decide)
  · exact (hg file run "Run" "object" hrun hcontributes hrobject file object hobject hdobject
      (run_identifiers _ (by decide)) (run_identifiers _ (by decide)) (by decide) (by decide)
      (by decide)).2 (by decide)

/-- The function refers to a type of its package, yet there is no edge. -/
theorem build_loses_reference :
    ∃ g, build ⟨[]⟩ runFiles = .ok g ∧
      (∃ (file : File) (object run : Declaration), object.IsScanned [] "app/m" runFiles file ∧
        run.IsScanned [] "app/m" runFiles file ∧ object.Declares "object" ∧
        run.ContributesTo "Run" ∧ run.Refers file "object") ∧
      IsIdentifier "Run" ∧ IsIdentifier "object" ∧ "object" ∉ universalNames ∧
      ¬g.DependsOn "app/m.Run" "app/m.object" := by
  obtain ⟨file, -, object, run, -, hobject, hrun, -, hdobject, hcontributes, -, hrobject,
    hreferences⟩ := run_scanned
  obtain ⟨start, g, -, hbuild, h⟩ := build_isLinked (c := ⟨[]⟩) rfl runFiles
  refine ⟨g.sealed, hbuild, ⟨file, object, run, hobject, hrun, hdobject, hcontributes, hrobject⟩,
    run_identifiers "Run" (by decide), run_identifiers "object" (by decide), by decide, ?_⟩
  intro hedge
  obtain ⟨-, earlier, r, hinitial, -, hsource, htarget⟩ := h.dependsOn_iff.mp hedge
  obtain ⟨hspec, hname, -⟩ := declared_source h.wellFormed _ r (mem_of_prefix_concat hinitial)
  have hother : ∀ name ∈ ["app/m.Port", "object"], Text.trimBlank name ≠ "app/m.object" := by
    decide
  exact hother r.name (hreferences r.spec hspec hsource ▸ hname) htarget

end Analysis

end ArchLint
