import ArchLint.Proofs.CycleSearch
import Mathlib.Data.List.Cycle

/-!
All cycles of a graph. Cycles that differ in their starting point only go
around one ring, and the list of all cycles has every ring once: the key that
it remembers a ring by does not depend on the starting point, and it tells
rings apart as long as no name contains the character that ends the names in
a key.
-/

namespace ArchLint

section Rings

variable {α β : Type}

/-- Closed walks around the same ring; they differ at most in where they
start. -/
def SameRing (c c' : List α) : Prop :=
  c.dropLast.IsRotated c'.dropLast

theorem SameRing.symm {c c' : List α} (h : SameRing c c') : SameRing c' c :=
  List.IsRotated.symm h

theorem SameRing.trans {c c' c'' : List α} (h : SameRing c c') (h' : SameRing c' c'') :
    SameRing c c'' :=
  List.IsRotated.trans h h'

theorem eq_of_isRotated_cons {a : α} {as bs : List α} (hnodup : (a :: as).Nodup)
    (h : (a :: as).IsRotated (a :: bs)) : as = bs := by
  obtain ⟨n, hn⟩ := h
  rw [← List.rotate_mod] at hn
  have hlt : n % (a :: as).length < (a :: as).length := Nat.mod_lt _ (by simp)
  have hhead := List.head?_rotate hlt
  rw [hn, List.head?_cons, eq_comm, List.getElem?_eq_some_iff] at hhead
  obtain ⟨hlt, hget⟩ := hhead
  have hsame : (a :: as)[n % (a :: as).length] = (a :: as)[0] := hget
  have hzero : n % (a :: as).length = 0 := hnodup.getElem_inj_iff.mp hsame
  rw [hzero, List.rotate_zero] at hn
  exact List.tail_eq_of_cons_eq hn

theorem append_terminated_inj {e : β} {xs ys s t : List β} (hxs : e ∉ xs) (hys : e ∉ ys)
    (h : xs ++ e :: s = ys ++ e :: t) : xs = ys ∧ s = t := by
  induction xs generalizing ys with
  | nil =>
      cases ys with
      | nil => exact ⟨rfl, List.tail_eq_of_cons_eq h⟩
      | cons y ys =>
          obtain rfl : e = y := List.head_eq_of_cons_eq h
          exact absurd (List.mem_cons_self ..) hys
  | cons x xs ih =>
      cases ys with
      | nil =>
          obtain rfl : x = e := List.head_eq_of_cons_eq h
          exact absurd (List.mem_cons_self ..) hxs
      | cons y ys =>
          obtain rfl : x = y := List.head_eq_of_cons_eq h
          obtain ⟨rfl, hst⟩ := ih (fun hx => hxs (List.mem_cons_of_mem _ hx))
            (fun hy => hys (List.mem_cons_of_mem _ hy)) (List.tail_eq_of_cons_eq h)
          exact ⟨rfl, hst⟩

/-- Elements whose words are written one after the other, with an end mark
after each, can be read back if the mark is in none of the words. -/
theorem eq_of_flatMap_terminated {word : α → List β} {e : β} {p : α → Prop}
    (hword : ∀ a b, p a → p b → word a = word b → a = b) (hmark : ∀ a, p a → e ∉ word a)
    {as bs : List α} (has : ∀ a ∈ as, p a) (hbs : ∀ b ∈ bs, p b)
    (h : (as.flatMap fun a => word a ++ [e]) = bs.flatMap fun b => word b ++ [e]) : as = bs := by
  induction as generalizing bs with
  | nil =>
      cases bs with
      | nil => rfl
      | cons b bs => simp at h
  | cons a as ih =>
      cases bs with
      | nil => simp at h
      | cons b bs =>
          obtain ⟨ha, has⟩ := List.forall_mem_cons.mp has
          obtain ⟨hb, hbs⟩ := List.forall_mem_cons.mp hbs
          simp only [List.flatMap_cons, List.append_assoc, List.singleton_append] at h
          obtain ⟨hab, hrest⟩ := append_terminated_inj (hmark a ha) (hmark b hb) h
          rw [hword a b ha hb hab, ih has hbs hrest]

end Rings

namespace Graph

section Keys

variable {c c' : List Module}

theorem isRotated_turnedRing (c : List Module) : c.dropLast.IsRotated (turnedRing c) := by
  simp only [turnedRing]
  cases hleast : (c.dropLast.map (·.order)).min? with
  | none =>
      rw [List.min?_eq_none_iff, List.map_eq_nil_iff] at hleast
      rw [hleast]
  | some least =>
      have hsplit : (c.dropLast.takeWhile (fun m => m.order != least) ++
          c.dropLast.dropWhile (fun m => m.order != least)).IsRotated
          (c.dropLast.dropWhile (fun m => m.order != least) ++
            c.dropLast.takeWhile fun m => m.order != least) :=
        List.isRotated_append
      rwa [List.takeWhile_append_dropWhile] at hsplit

theorem turnedRing_eq_cons (hc : c.dropLast ≠ []) :
    ∃ m rest, turnedRing c = m :: rest ∧ ∀ x ∈ c.dropLast, m.order ≤ x.order := by
  obtain ⟨least, hleast⟩ : ∃ least, (c.dropLast.map (·.order)).min? = some least :=
    Option.isSome_iff_exists.mp (List.isSome_min?_of_ne_nil (mt List.map_eq_nil_iff.mp hc))
  obtain ⟨hmem, hle⟩ := List.min?_eq_some_iff.mp hleast
  obtain ⟨x, hx, hxleast⟩ := List.mem_map.mp hmem
  have hne : c.dropLast.dropWhile (fun m => m.order != least) ≠ [] := by
    rw [Ne, List.dropWhile_eq_nil_iff]
    intro hall
    simpa [hxleast] using hall x hx
  obtain ⟨m, rest, hrest⟩ := List.exists_cons_of_ne_nil hne
  have hm : m.order = least := by
    have hhead := List.head_dropWhile_not (fun m : Module => m.order != least) hne
    simpa [hrest] using hhead
  refine ⟨m, rest ++ c.dropLast.takeWhile (fun m => m.order != least), ?_, ?_⟩
  · simp only [turnedRing, hleast, hrest, List.cons_append]
  · intro x hx
    rw [hm]
    exact hle _ (List.mem_map_of_mem hx)

/-- Where a cycle starts makes no difference to its ring once that is
turned. -/
theorem turnedRing_eq_of_sameRing (hnodup : c.dropLast.Nodup)
    (horder : ∀ x ∈ c.dropLast, ∀ y ∈ c.dropLast, x.order = y.order → x = y)
    (h : SameRing c c') : turnedRing c = turnedRing c' := by
  have hrotated : (turnedRing c).IsRotated (turnedRing c') :=
    ((isRotated_turnedRing c).symm.trans h).trans (isRotated_turnedRing c')
  by_cases hc : c.dropLast = []
  · have hc' : c'.dropLast = [] := by
      rw [SameRing, hc] at h
      exact (List.isRotated_nil_iff'.mp h).symm
    simp [turnedRing, hc, hc']
  · have hc' : c'.dropLast ≠ [] := by
      intro hc'
      rw [SameRing, hc', List.isRotated_nil_iff] at h
      exact hc h
    obtain ⟨m, rest, hm, hfirst⟩ := turnedRing_eq_cons hc
    obtain ⟨m', rest', hm', hfirst'⟩ := turnedRing_eq_cons hc'
    have hmem : m ∈ c.dropLast := by simp [(isRotated_turnedRing c).mem_iff, hm]
    have hmem' : m' ∈ c'.dropLast := by simp [(isRotated_turnedRing c').mem_iff, hm']
    -- both heads are the one module of least order
    obtain rfl : m = m' := by
      refine horder m hmem m' (h.mem_iff.mpr hmem') (Nat.le_antisymm ?_ ?_)
      · exact hfirst m' (h.mem_iff.mpr hmem')
      · exact hfirst' m (h.mem_iff.mp hmem)
    rw [hm, hm'] at hrotated ⊢
    have hnodup' : (m :: rest).Nodup := by
      rw [← hm]
      exact (isRotated_turnedRing c).nodup_iff.mp hnodup
    rw [eq_of_isRotated_cons hnodup' hrotated]

theorem cycleKey_eq_of_sameRing (hnodup : c.dropLast.Nodup)
    (horder : ∀ x ∈ c.dropLast, ∀ y ∈ c.dropLast, x.order = y.order → x = y)
    (h : SameRing c c') : cycleKey c = cycleKey c' := by
  simp only [cycleKey, turnedRing_eq_of_sameRing hnodup horder h]

theorem sameRing_of_cycleKey_eq {g : Graph} (hg : g.WellFormed)
    (hmarks : ∀ m ∈ g.modules, '\x00' ∉ m.name.toList) (hc : ∀ m ∈ c.dropLast, m ∈ g.modules)
    (hc' : ∀ m ∈ c'.dropLast, m ∈ g.modules) (h : cycleKey c = cycleKey c') :
    SameRing c c' := by
  have hmem : ∀ m ∈ turnedRing c, m ∈ g.modules := fun m hm =>
    hc m ((isRotated_turnedRing c).mem_iff.mpr hm)
  have hmem' : ∀ m ∈ turnedRing c', m ∈ g.modules := fun m hm =>
    hc' m ((isRotated_turnedRing c').mem_iff.mpr hm)
  have hturned : turnedRing c = turnedRing c' := by
    refine eq_of_flatMap_terminated ?_ hmarks hmem hmem' (String.ofList_injective h)
    intro m m' hm hm' hname
    exact hg.modules.eq_of_name hm hm' (String.toList_injective hname)
  refine (isRotated_turnedRing c).trans ?_
  rw [hturned]
  exact (isRotated_turnedRing c').symm

end Keys

section Distinct

theorem distinctCycles_sublist (seen : List String) (cs : List (List Module)) :
    (distinctCycles seen cs).Sublist cs := by
  induction cs generalizing seen with
  | nil => exact .slnil
  | cons c cs ih =>
      rw [distinctCycles]
      split
      · exact (ih seen).cons c
      · exact (ih _).cons_cons c

theorem eq_append_of_mem_distinctCycles {seen : List String} {cs : List (List Module)}
    {c : List Module} (hc : c ∈ distinctCycles seen cs) :
    cycleKey c ∉ seen ∧ ∃ before after, cs = before ++ c :: after ∧
      ∀ b ∈ before, cycleKey b ≠ cycleKey c := by
  induction cs generalizing seen with
  | nil => cases hc
  | cons d cs ih =>
      rw [distinctCycles] at hc
      split at hc
      · rename_i hseen
        obtain ⟨hnew, before, after, rfl, hbefore⟩ := ih hc
        refine ⟨hnew, d :: before, after, rfl, List.forall_mem_cons.mpr ⟨?_, hbefore⟩⟩
        intro hkey
        exact hnew (hkey ▸ List.elem_iff.mp hseen)
      · rename_i hseen
        rcases List.mem_cons.mp hc with rfl | hc
        · exact ⟨fun hmem => hseen (List.elem_iff.mpr hmem), [], cs, rfl, by simp⟩
        · obtain ⟨hnew, before, after, rfl, hbefore⟩ := ih hc
          obtain ⟨hne, hnew⟩ := not_or.mp (List.mem_cons.not.mp hnew)
          exact ⟨hnew, d :: before, after, rfl,
            List.forall_mem_cons.mpr ⟨Ne.symm hne, hbefore⟩⟩

theorem exists_mem_distinctCycles {seen : List String} {cs : List (List Module)}
    {c : List Module} (hc : c ∈ cs) (hnew : cycleKey c ∉ seen) :
    ∃ c' ∈ distinctCycles seen cs, cycleKey c' = cycleKey c := by
  induction cs generalizing seen with
  | nil => cases hc
  | cons d cs ih =>
      rw [distinctCycles]
      split
      · rename_i hseen
        rcases List.mem_cons.mp hc with rfl | hc
        · exact absurd (List.elem_iff.mp hseen) hnew
        · exact ih hc hnew
      · by_cases hkey : cycleKey d = cycleKey c
        · exact ⟨d, List.mem_cons_self .., hkey⟩
        · rcases List.mem_cons.mp hc with rfl | hc
          · exact absurd rfl hkey
          · have hnew' : cycleKey c ∉ cycleKey d :: seen := by simp [Ne.symm hkey, hnew]
            obtain ⟨c', hc', heq⟩ := ih hc hnew'
            exact ⟨c', List.mem_cons_of_mem _ hc', heq⟩

theorem pairwise_distinctCycles (seen : List String) (cs : List (List Module)) :
    (distinctCycles seen cs).Pairwise (fun c c' => cycleKey c ≠ cycleKey c') := by
  induction cs generalizing seen with
  | nil => exact .nil
  | cons c cs ih =>
      rw [distinctCycles]
      split
      · exact ih seen
      · refine List.pairwise_cons.mpr ⟨?_, ih _⟩
        intro c' hc' hkey
        exact (eq_append_of_mem_distinctCycles hc').1 (hkey ▸ List.mem_cons_self ..)

end Distinct

/-- An elementary cycle of dependencies that starts at a module: it goes over
other modules, none of them twice, and comes back. -/
def IsCycleFrom (g : Graph) (m : Module) (c : List Module) : Prop :=
  m ∈ g.modules ∧ ∃ ms, ms ≠ [] ∧ c = m :: (ms ++ [m]) ∧ (m :: ms).Nodup ∧
    c.IsChain (fun x y => y ∈ g.dependencyModules x)

/-- A module whose findings are reported. -/
def IsReported (m : Module) : Prop :=
  m.enabled = true ∧ m.name ≠ Module.globalName ∧ m.name ≠ Module.primitivesName

instance (m : Module) : Decidable (IsReported m) :=
  inferInstanceAs (Decidable (_ ∧ _ ∧ _))

theorem mem_enabledModules {g : Graph} {m : Module} :
    m ∈ g.enabledModules ↔ m ∈ g.modules ∧ IsReported m := by
  simp [enabledModules, IsReported, Module.isReportable, Module.isGlobal, Module.isPrimitives]

namespace IsCycleFrom

variable {g : Graph} {m m' : Module} {c : List Module}

theorem head?_eq (h : g.IsCycleFrom m c) : c.head? = some m := by
  obtain ⟨-, ms, -, rfl, -⟩ := h
  rfl

theorem nodup (h : g.IsCycleFrom m c) : c.dropLast.Nodup := by
  obtain ⟨-, ms, -, rfl, hnodup, -⟩ := h
  rwa [← List.cons_append, List.dropLast_concat]

theorem mem_dropLast_iff (h : g.IsCycleFrom m c) {x : Module} : x ∈ c.dropLast ↔ x ∈ c := by
  obtain ⟨-, ms, -, rfl, -⟩ := h
  rw [← List.cons_append, List.dropLast_concat]
  simp only [List.mem_cons, List.mem_append, List.not_mem_nil, or_false]
  tauto

theorem mem_modules (h : g.IsCycleFrom m c) (hg : g.WellFormed) {x : Module} (hx : x ∈ c) :
    x ∈ g.modules := by
  obtain ⟨hm, ms, -, rfl, -, hchain⟩ := h
  refine hchain.induction (· ∈ g.modules) _ ?_ (fun _ => hm) x hx
  intro y z hz _
  obtain ⟨u, -, howner⟩ := hg.mem_ownersOf.mp hz
  exact WellFormed.ownerOf?_mem howner

theorem turn (h : g.IsCycleFrom m c) (hg : g.WellFormed) (hm' : m' ∈ c) :
    ∃ c', g.IsCycleFrom m' c' ∧ SameRing c c' := by
  have hmodules := h.mem_modules hg hm'
  have hring := h.mem_dropLast_iff.mpr hm'
  obtain ⟨-, ms, hne, rfl, hnodup, hchain⟩ := h
  rw [← List.cons_append, List.dropLast_concat] at hring
  obtain ⟨before, after, hsplit⟩ := List.append_of_mem hring
  have hrotated : (m :: ms).IsRotated (m' :: (after ++ before)) := by
    rw [hsplit, ← List.cons_append]
    exact List.isRotated_append
  refine ⟨m' :: (after ++ before ++ [m']), ⟨hmodules, after ++ before, ?_, rfl, ?_, ?_⟩, ?_⟩
  · intro hnil
    have hlength := hrotated.perm.length_eq
    rw [hnil] at hlength
    exact hne (List.eq_nil_of_length_eq_zero (by simpa using hlength))
  · exact hrotated.nodup_iff.mp hnodup
  · -- chains that close do not depend on the point where they are cut
    rw [← Cycle.chain_coe_cons] at hchain ⊢
    rwa [← Cycle.coe_eq_coe.mpr hrotated]
  · rw [SameRing, ← List.cons_append, ← List.cons_append, List.dropLast_concat,
      List.dropLast_concat]
    exact hrotated

theorem eq_of_sameRing (h : g.IsCycleFrom m c) {c' : List Module} (h' : g.IsCycleFrom m c')
    (hring : SameRing c c') : c = c' := by
  obtain ⟨-, ms, -, rfl, hnodup, -⟩ := h
  obtain ⟨-, ms', -, rfl, -, -⟩ := h'
  rw [SameRing, ← List.cons_append, ← List.cons_append, List.dropLast_concat,
    List.dropLast_concat] at hring
  rw [eq_of_isRotated_cons hnodup hring]

theorem cycleKey_eq (h : g.IsCycleFrom m c) (hg : g.WellFormed) {c' : List Module}
    (hring : SameRing c c') : cycleKey c = cycleKey c' := by
  refine cycleKey_eq_of_sameRing h.nodup ?_ hring
  intro x hx y hy horder
  exact hg.modules.eq_of_number (h.mem_modules hg (h.mem_dropLast_iff.mp hx))
    (h.mem_modules hg (h.mem_dropLast_iff.mp hy)) horder

end IsCycleFrom

namespace IsSealed

variable {g : Graph} {m : Module} {c : List Module}

theorem isCycleFrom_iff (h : g.IsSealed) :
    g.IsCycleFrom m c ↔ m ∈ g.modules ∧ c ∈ g.cyclesThrough m :=
  and_congr_right fun hm => (h.mem_cyclesThrough hm).symm

theorem mem_found_iff (h : g.IsSealed) :
    c ∈ g.enabledModules.flatMap g.cyclesThrough ↔ ∃ m, g.IsCycleFrom m c ∧ IsReported m := by
  simp only [List.mem_flatMap, mem_enabledModules, h.isCycleFrom_iff]
  constructor
  · rintro ⟨m, ⟨hm, hreported⟩, hc⟩
    exact ⟨m, ⟨hm, hc⟩, hreported⟩
  · rintro ⟨m, ⟨hm, hc⟩, hreported⟩
    exact ⟨m, ⟨hm, hreported⟩, hc⟩

theorem found_ordered (h : g.IsSealed) :
    (g.enabledModules.flatMap g.cyclesThrough).Pairwise (fun c c' =>
      ∀ m m', g.IsCycleFrom m c → g.IsCycleFrom m' c' → m.order ≤ m'.order) := by
  have hstart : ∀ {x m : Module} {c : List Module}, x ∈ g.enabledModules →
      c ∈ g.cyclesThrough x → g.IsCycleFrom m c → m = x := by
    intro x m c hx hc hm
    have hx := h.isCycleFrom_iff.mpr ⟨(mem_enabledModules.mp hx).1, hc⟩
    exact Option.some.inj (hm.head?_eq.symm.trans hx.head?_eq)
  have hmodules : g.enabledModules.Pairwise (fun x y => x.order < y.order) :=
    h.wellFormed.modules.increasing_toList.filter _
  rw [List.pairwise_flatMap]
  refine ⟨fun x hx => List.pairwise_of_forall_mem_list ?_, hmodules.imp_of_mem ?_⟩
  · intro c hc c' hc' m m' hm hm'
    rw [hstart hx hc hm, hstart hx hc' hm']
  · intro x y hx hy hxy c hc c' hc' m m' hm hm'
    rw [hstart hx hc hm, hstart hy hc' hm']
    exact Nat.le_of_lt hxy

/-- A listed cycle starts at its first reported module: started from there, it
would have been found before. -/
theorem isCycleFrom_of_mem_cycles (h : g.IsSealed) (hc : c ∈ g.cycles) :
    ∃ m, g.IsCycleFrom m c ∧ IsReported m ∧
      ∀ m' ∈ c, IsReported m' → m.order ≤ m'.order := by
  obtain ⟨-, before, after, hfound, hbefore⟩ := eq_append_of_mem_distinctCycles hc
  have hmem := (distinctCycles_sublist _ _).subset hc
  obtain ⟨m, hm, hreported⟩ := h.mem_found_iff.mp hmem
  refine ⟨m, hm, hreported, ?_⟩
  intro m' hm' hreported'
  obtain ⟨c', hturned, hring⟩ := hm.turn h.wellFormed hm'
  have hmem' := h.mem_found_iff.mpr ⟨m', hturned, hreported'⟩
  have hordered := h.found_ordered
  rw [hfound] at hmem' hordered
  rcases List.mem_append.mp hmem' with hearlier | hlater
  · exact absurd (hm.cycleKey_eq h.wellFormed hring).symm (hbefore c' hearlier)
  · rcases List.mem_cons.mp hlater with rfl | hafter
    · obtain rfl : m = m' := Option.some.inj (hm.head?_eq.symm.trans hturned.head?_eq)
      exact Nat.le_refl _
    · have hrest := (List.pairwise_append.mp hordered).2.1
      exact (List.pairwise_cons.mp hrest).1 c' hafter m m' hm hturned

theorem exists_mem_cycles (h : g.IsSealed) (hmarks : ∀ m ∈ g.modules, '\x00' ∉ m.name.toList)
    (hc : g.IsCycleFrom m c) (hreported : ∃ m' ∈ c, IsReported m') :
    ∃ c' ∈ g.cycles, SameRing c' c := by
  obtain ⟨m', hm', hreported'⟩ := hreported
  obtain ⟨d, hturned, hring⟩ := hc.turn h.wellFormed hm'
  obtain ⟨c', hc', hkey⟩ := exists_mem_distinctCycles
    (h.mem_found_iff.mpr ⟨m', hturned, hreported'⟩) (List.not_mem_nil (a := cycleKey d))
  obtain ⟨m₀, hc'cycle, -⟩ := h.isCycleFrom_of_mem_cycles hc'
  refine ⟨c', hc', SameRing.trans ?_ hring.symm⟩
  refine sameRing_of_cycleKey_eq h.wellFormed hmarks ?_ ?_ hkey
  · intro x hx
    exact hc'cycle.mem_modules h.wellFormed (hc'cycle.mem_dropLast_iff.mp hx)
  · intro x hx
    exact hturned.mem_modules h.wellFormed (hturned.mem_dropLast_iff.mp hx)

theorem pairwise_cycles (h : g.IsSealed) : g.cycles.Pairwise (fun c c' => ¬SameRing c c') := by
  refine (pairwise_distinctCycles _ _).imp_of_mem ?_
  intro c c' hc _ hkeys hring
  obtain ⟨m, hm, -⟩ := h.isCycleFrom_of_mem_cycles hc
  exact hkeys (hm.cycleKey_eq h.wellFormed hring)

end IsSealed

/-- In a sealed graph of any run without a NUL in the names of modules, the
list of all cycles has one cycle of every ring that has a reported module, and
nothing else. It starts and ends at the first reported module of the ring. -/
theorem cycles_representatives (operations : List Operation)
    (hmarks : ∀ m ∈ (run operations).sealed.modules, '\x00' ∉ m.name.toList) :
    let g := (run operations).sealed
    (∀ c ∈ g.cycles, ∃ m, g.IsCycleFrom m c ∧ IsReported m ∧
        ∀ m' ∈ c, IsReported m' → m.order ≤ m'.order) ∧
      (∀ m c, g.IsCycleFrom m c → (∃ m' ∈ c, IsReported m') →
        ∃! c', c' ∈ g.cycles ∧ SameRing c' c) ∧
      g.cycles.Pairwise (fun c c' => ¬SameRing c c') ∧
      ∀ c, (∃ c' ∈ g.cycles, SameRing c' c) ↔
        ∃ m ∈ g.modules, IsReported m ∧ ∃ c' ∈ g.cyclesThrough m, SameRing c' c := by
  intro g
  have h : g.IsSealed := isSealed_sealed_run operations
  have hdistinct := h.pairwise_cycles
  refine ⟨fun c => h.isCycleFrom_of_mem_cycles, ?_, hdistinct, ?_⟩
  · intro m c hc hreported
    obtain ⟨c', hc', hring⟩ := h.exists_mem_cycles hmarks hc hreported
    refine ⟨c', ⟨hc', hring⟩, ?_⟩
    rintro d ⟨hd, hdring⟩
    by_contra hne
    have : Std.Symm fun c c' : List Module => ¬SameRing c c' :=
      ⟨fun _ _ hnot hring => hnot hring.symm⟩
    exact hdistinct.forall hd hc' hne (hdring.trans hring.symm)
  · intro c
    constructor
    · rintro ⟨c', hc', hring⟩
      obtain ⟨m, hm, hreported, -⟩ := h.isCycleFrom_of_mem_cycles hc'
      obtain ⟨hmem, hthrough⟩ := h.isCycleFrom_iff.mp hm
      exact ⟨m, hmem, hreported, c', hthrough, hring⟩
    · rintro ⟨m, hm, hreported, c', hc', hring⟩
      have hcycle := h.isCycleFrom_iff.mpr ⟨hm, hc'⟩
      have hstart : m ∈ c' := List.mem_of_mem_head? hcycle.head?_eq
      obtain ⟨d, hd, hdring⟩ := h.exists_mem_cycles hmarks hcycle ⟨m, hstart, hreported⟩
      exact ⟨d, hd, hdring.trans hring⟩

theorem cycles_representatives_mutual :
    (∀ m ∈ (run mutualOperations).sealed.modules, '\x00' ∉ m.name.toList) ∧
      ∃ a b, (run mutualOperations).sealed.IsCycleFrom b [b, a, b] ∧
        [a, b, a] ∈ (run mutualOperations).sealed.cycles ∧
        [b, a, b] ∉ (run mutualOperations).sealed.cycles := by
  have hsealed := isSealed_sealed_run mutualOperations
  have hexact := cycles_representatives mutualOperations
  rw [mutual_sealed] at hsealed hexact ⊢
  have hmarks : ∀ m ∈ mutualGraph.modules, '\x00' ∉ m.name.toList := by decide
  obtain ⟨hstarts, hunique, -⟩ := hexact hmarks
  obtain ⟨a, ha⟩ : ∃ a, mutualGraph.modules[0]? = some a := ⟨_, rfl⟩
  obtain ⟨b, hb⟩ : ∃ b, mutualGraph.modules[1]? = some b := ⟨_, rfl⟩
  have hamem := Array.mem_of_getElem? ha
  have hbmem := Array.mem_of_getElem? hb
  have hab : b ∈ mutualGraph.dependencyModules a :=
    (hsealed.mem_dependencyModules hamem).mpr
      ⟨_, _, mutual_crossing (.inl ⟨rfl, rfl⟩) ha hb rfl rfl⟩
  have hba : a ∈ mutualGraph.dependencyModules b :=
    (hsealed.mem_dependencyModules hbmem).mpr
      ⟨_, _, mutual_crossing (.inr ⟨rfl, rfl⟩) hb ha rfl rfl⟩
  cases ha
  cases hb
  have hcycle : ∀ {x y : Module}, x ∈ mutualGraph.modules → x ≠ y →
      y ∈ mutualGraph.dependencyModules x → x ∈ mutualGraph.dependencyModules y →
      mutualGraph.IsCycleFrom x [x, y, x] := by
    intro x y hx hne hxy hyx
    exact ⟨hx, [y], by simp, rfl, by simpa using hne, by simpa using ⟨hxy, hyx⟩⟩
  refine ⟨hmarks, _, _, hcycle hbmem (by decide) hba hab, ?_, ?_⟩
  · -- the ring has one listed cycle, and `a` is its first module
    have haba := hcycle hamem (by decide) hab hba
    obtain ⟨c, ⟨hc, hring⟩, -⟩ := hunique _ _ haba ⟨_, List.mem_cons_self .., by decide⟩
    obtain ⟨m, hm, -, hfirst⟩ := hstarts c hc
    have hmem : ∀ x, x ∈ c ↔ x ∈ [mutualGraph.modules[0], mutualGraph.modules[1]] := by
      intro x
      rw [← hm.mem_dropLast_iff]
      exact hring.mem_iff
    have hle := hfirst _ ((hmem _).mpr (List.mem_cons_self ..)) (by decide)
    obtain rfl : m = mutualGraph.modules[0] := by
      have hm := (hmem m).mp (List.mem_of_mem_head? hm.head?_eq)
      simp only [List.mem_cons, List.not_mem_nil, or_false] at hm
      rcases hm with rfl | rfl
      · rfl
      · exact absurd hle (by decide)
    exact hm.eq_of_sameRing haba hring ▸ hc
  · intro hlisted
    obtain ⟨m, hm, -, hfirst⟩ := hstarts _ hlisted
    obtain rfl := Option.some.inj hm.head?_eq
    have hle := hfirst _ (List.mem_cons_of_mem _ (List.mem_cons_self ..)) (by decide)
    exact absurd hle (by decide)

end Graph

end ArchLint
