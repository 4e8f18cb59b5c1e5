import ArchLint.Proofs.Directories

/-!
A sequence in a file behaves like a list that grows until it is closed. The
bytes of its file, the length and the end that it remembers keep in step over
all calls, so that whatever is opened later has the same items; from a damaged
file the items in front of the damage are left.
-/

namespace ArchLint

open Text (Codec)

namespace Spill

variable {α ε : Type}

inductive Call (α ε : Type) where
  | append (item : α)
  | appendAll (items : List α)
  | range (visit : Nat → α → Option ε)
  | length
  | close

def Call.items : Call α ε → List α
  | .append item => [item]
  | .appendAll items => items
  | _ => []

/-- What a call returns. A visit returns the items that were visited without
failure. -/
inductive Answer (α ε : Type) where
  | done
  | failed (fault : SpillFault)
  | visited (items : List α) (failure : Option (VisitFault ε))
  | count (n : Nat)

def call (codec : Codec α) (s : Spill) (d : Disk) : Call α ε → Answer α ε × Spill × Disk
  | .append item =>
      match s.append codec d item with
      | .ok (s, d) => (.done, s, d)
      | .error fault => (.failed fault, s, d)
  | .appendAll items =>
      match s.appendAll codec d items with
      | (.ok (), s, d) => (.done, s, d)
      | (.error fault, s, d) => (.failed fault, s, d)
  | .range visit => (.visited (s.range codec d visit).1 (s.range codec d visit).2, s, d)
  | .length => (.count s.length, s, d)
  | .close => (.done, s.close, d)

/-- Performs calls one after the other. -/
def calls (codec : Codec α) (s : Spill) (d : Disk) :
    List (Call α ε) → List (Answer α ε) × Spill × Disk
  | [] => ([], s, d)
  | c :: rest =>
      let (answer, s, d) := s.call codec d c
      let (answers, s, d) := s.calls codec d rest
      (answer :: answers, s, d)

end Spill

/-- A list that can grow as long as it is open. -/
structure Sequence (α : Type) where
  items : List α := []
  isOpen : Bool := true

namespace Sequence

open Spill (Call Answer)

variable {α ε : Type}

/-- Items are visited in order, with their indices from `first` on, up to the
first one at which the visitor fails. -/
structure Visits (visit : Nat → α → Option ε) (first : Nat) (items visited : List α)
    (failure : Option ε) : Prop where
  inOrder : visited <+: items
  passed : ∀ i item, visited[i]? = some item → visit (first + i) item = none
  complete : failure = none → visited = items
  stopped : ∀ e, failure = some e → ∃ item, items[visited.length]? = some item ∧
    visit (first + visited.length) item = some e

/-- What a call on a list returns, and the list afterwards. Of several items
those in front of the first one that is refused are added. -/
inductive Step (refusal? : α → Option String) :
    Sequence α → Call α ε → Answer α ε → Sequence α → Prop where
  | append (items : List α) {item : α} (hitem : refusal? item = none) :
      Step refusal? ⟨items, true⟩ (.append item) .done ⟨items ++ [item], true⟩
  | appendRefused (items : List α) {item : α} {reason : String}
      (hitem : refusal? item = some reason) :
      Step refusal? ⟨items, true⟩ (.append item) (.failed (.encode items.length reason))
        ⟨items, true⟩
  | appendClosed (items : List α) (item : α) :
      Step refusal? ⟨items, false⟩ (.append item) (.failed .readOnly) ⟨items, false⟩
  | appendAll (items : List α) {more : List α} (hmore : ∀ item ∈ more, refusal? item = none) :
      Step refusal? ⟨items, true⟩ (.appendAll more) .done ⟨items ++ more, true⟩
  | appendAllRefused (items : List α) {added rest : List α} {item : α} {reason : String}
      (hadded : ∀ item ∈ added, refusal? item = none) (hitem : refusal? item = some reason) :
      Step refusal? ⟨items, true⟩ (.appendAll (added ++ item :: rest))
        (.failed (.encode (items ++ added).length reason)) ⟨items ++ added, true⟩
  | appendAllClosed (items : List α) {more : List α} (hmore : more ≠ []) :
      Step refusal? ⟨items, false⟩ (.appendAll more) (.failed .readOnly) ⟨items, false⟩
  | appendNone (items : List α) :
      Step refusal? ⟨items, false⟩ (.appendAll []) .done ⟨items, false⟩
  | range (q : Sequence α) {visit : Nat → α → Option ε} {visited : List α} {failure : Option ε}
      (hvisits : Visits visit 0 q.items visited failure) :
      Step refusal? q (.range visit) (.visited visited (failure.map .visitor)) q
  | length (q : Sequence α) : Step refusal? q .length (.count q.items.length) q
  | close (q : Sequence α) : Step refusal? q .close .done ⟨q.items, false⟩

/-- What calls on a list return one after the other. -/
inductive Steps (refusal? : α → Option String) :
    Sequence α → List (Call α ε) → List (Answer α ε) → Sequence α → Prop where
  | nil (q : Sequence α) : Steps refusal? q [] [] q
  | cons {q next last : Sequence α} {c : Call α ε} {answer : Answer α ε}
      {rest : List (Call α ε)} {answers : List (Answer α ε)}
      (hstep : Step refusal? q c answer next) (hrest : Steps refusal? next rest answers last) :
      Steps refusal? q (c :: rest) (answer :: answers) last

theorem step_appendAll_cons {refusal? : α → Option String} {items more : List α} {item : α}
    {answer : Answer α ε} {q : Sequence α} (hitem : refusal? item = none)
    (h : Step refusal? ⟨items ++ [item], true⟩ (.appendAll more) answer q) :
    Step refusal? ⟨items, true⟩ (.appendAll (item :: more)) answer q := by
  cases h with
  | appendAll _ hmore =>
      rw [List.append_assoc]
      exact .appendAll items (List.forall_mem_cons.mpr ⟨hitem, hmore⟩)
  | appendAllRefused _ hadded hrefused =>
      rw [List.append_assoc]
      exact .appendAllRefused items (List.forall_mem_cons.mpr ⟨hitem, hadded⟩) hrefused

end Sequence

namespace Spill

variable {α ε : Type} {codec : Codec α} {s : Spill} {d : Disk} {items : List α}

theorem visits_visitFrom (visit : Nat → α → Option ε) (first : Nat) (items : List α) :
    Sequence.Visits visit first items (visitFrom visit first items).1
      (visitFrom visit first items).2 := by
  induction items generalizing first with
  | nil =>
      rw [visitFrom]
      exact ⟨List.prefix_rfl, by simp, by simp, by simp⟩
  | cons item rest ih =>
      rw [visitFrom]
      cases hvisit : visit first item with
      | some e =>
          dsimp only
          exact ⟨List.nil_prefix, by simp, by simp, fun e' he => ⟨item, rfl, hvisit.trans he⟩⟩
      | none =>
          dsimp only
          obtain ⟨hinOrder, hpassed, hcomplete, hstopped⟩ := ih (first + 1)
          have hindex : ∀ i, first + 1 + i = first + (i + 1) := by
            intro i
            omega
          refine ⟨(List.prefix_cons_inj item).mpr hinOrder, ?_, ?_, ?_⟩
          · intro i passed hi
            cases i with
            | zero =>
                cases hi
                exact hvisit
            | succ i => exact hindex i ▸ hpassed i passed hi
          · intro hnone
            rw [hcomplete hnone]
          · intro e he
            obtain ⟨stopped, hmem, hfail⟩ := hstopped e he
            exact ⟨stopped, hmem, hindex _ ▸ hfail⟩

theorem visits_range {clean : Bool} (hread : readable codec d s.path = .ok (items, clean))
    (hlength : s.length = items.length) (visit : Nat → α → Option ε) :
    ∃ visited failure, s.range codec d visit = (visited, failure.map .visitor) ∧
      Sequence.Visits visit 0 items visited failure := by
  refine ⟨_, _, ?_, visits_visitFrom visit 0 items⟩
  simp only [range, hread, hlength, List.take_length]
  cases (visitFrom visit 0 items).2 <;> simp

theorem step_call_closed {clean : Bool} (hread : readable codec d s.path = .ok (items, clean))
    (hlength : s.length = items.length) (hwritten : s.written = none) (c : Call α ε) :
    ∃ answer, s.call codec d c = (answer, s, d) ∧
      Sequence.Step codec.refusal? ⟨items, false⟩ c answer ⟨items, false⟩ := by
  cases c with
  | append item =>
      refine ⟨_, ?_, .appendClosed items item⟩
      simp [call, append, hwritten]
  | appendAll more =>
      cases more with
      | nil => exact ⟨_, rfl, .appendNone items⟩
      | cons item more =>
          refine ⟨_, ?_, .appendAllClosed items (List.cons_ne_nil item more)⟩
          simp [call, appendAll, append, hwritten]
  | range visit =>
      obtain ⟨visited, failure, hrange, hvisits⟩ := visits_range hread hlength visit
      refine ⟨_, ?_, .range ⟨items, false⟩ hvisits⟩
      simp [call, hrange]
  | length =>
      refine ⟨_, ?_, .length ⟨items, false⟩⟩
      simp [call, hlength]
  | close =>
      refine ⟨_, ?_, .close ⟨items, false⟩⟩
      simp [call, close, ← hwritten]

/-- A sequence that shows items and takes no more: calls leave it and the disk
as they are. -/
def Shows (codec : Codec α) (s : Spill) (d : Disk) (items : List α) : Prop :=
  ∀ (ε : Type) (cs : List (Call α ε)), ∃ answers, s.calls codec d cs = (answers, s, d) ∧
    Sequence.Steps codec.refusal? ⟨items, false⟩ cs answers ⟨items, false⟩

theorem shows_of_readable {clean : Bool} (hread : readable codec d s.path = .ok (items, clean))
    (hlength : s.length = items.length) (hwritten : s.written = none) :
    s.Shows codec d items := by
  intro ε cs
  induction cs with
  | nil => exact ⟨[], rfl, .nil _⟩
  | cons c cs ih =>
      obtain ⟨answer, hcall, hstep⟩ := step_call_closed hread hlength hwritten c
      obtain ⟨answers, hcalls, hsteps⟩ := ih
      refine ⟨answer :: answers, ?_, .cons hstep hsteps⟩
      simp [calls, hcall, hcalls]

theorem shows_openFile {path : String} {clean : Bool}
    (hread : readable codec d path = .ok (items, clean)) :
    ∃ s, openFile codec d path = .ok s ∧ s.length = items.length ∧ s.Shows codec d items := by
  refine ⟨{ path, length := items.length }, ?_, rfl, shows_of_readable hread rfl rfl⟩
  simp [openFile, hread, Except.map]

/-- The file of a sequence has the bytes of a list of items that read back, and
the sequence knows its length, and its end as long as it is open. -/
structure Represents (codec : Codec α) (s : Spill) (d : Disk) (q : Sequence α) : Prop where
  node : ∃ place, d.nodeAt s.path = .ok (place, .file (bytesOf codec q.items))
  length : s.length = q.items.length
  written : s.written = if q.isOpen then some (bytesOf codec q.items).toList.length else none
  reads : ∀ item ∈ q.items, codec.decode? (codec.encode item) = some item

theorem Represents.readable {q : Sequence α} (h : Represents codec s d q) :
    ∃ clean, readable codec d s.path = .ok (q.items, clean) := by
  obtain ⟨place, hnode⟩ := h.node
  exact readable_bytesOf hnode h.reads

/-- The items of calls read back, unless they are refused. -/
def Reads (codec : Codec α) (items : List α) : Prop :=
  ∀ item ∈ items, codec.refusal? item = none → codec.decode? (codec.encode item) = some item

theorem represents_append {item : α} (h : Represents codec s d ⟨items, true⟩)
    (hrefusal : codec.refusal? item = none)
    (hitem : codec.decode? (codec.encode item) = some item) :
    ∃ s' d', s.append codec d item = .ok (s', d') ∧ s'.path = s.path ∧
      Represents codec s' d' ⟨items ++ [item], true⟩ := by
  obtain ⟨⟨place, hnode⟩, hlength, hwritten, hreads⟩ := h
  cases happend : s.append codec d item with
  | error fault => simp [append, hwritten, hrefusal] at happend
  | ok result =>
      obtain ⟨s', d'⟩ := result
      obtain ⟨hpath, hlength', hwritten', hnode'⟩ := append_content hnode hwritten happend
      refine ⟨s', d', rfl, hpath, ⟨place, hpath ▸ hnode'⟩, ?_, hwritten', ?_⟩
      · simp [hlength', hlength]
      · intro other hother
        rcases List.mem_append.mp hother with hother | hother
        · exact hreads other hother
        · rwa [List.mem_singleton.mp hother]

theorem append_refused {item : α} {reason : String} (h : Represents codec s d ⟨items, true⟩)
    (hitem : codec.refusal? item = some reason) :
    s.append codec d item = .error (.encode items.length reason) := by
  simp [append, h.written, hitem, h.length]

theorem represents_appendAll {more : List α} (h : Represents codec s d ⟨items, true⟩)
    (hmore : Reads codec more) :
    ∃ answer s' d' q', s.call codec d (.appendAll more : Call α ε) = (answer, s', d') ∧
      s'.path = s.path ∧ Sequence.Step codec.refusal? ⟨items, true⟩ (.appendAll more) answer q' ∧
      Represents codec s' d' q' := by
  induction more generalizing s d items with
  | nil =>
      have hstep : Sequence.Step codec.refusal? ⟨items, true⟩ (.appendAll [] : Call α ε) .done
          ⟨items ++ [], true⟩ :=
        .appendAll items (List.forall_mem_nil _)
      rw [List.append_nil] at hstep
      exact ⟨.done, s, d, _, rfl, rfl, hstep, h⟩
  | cons item more ih =>
      obtain ⟨hitem, hmore⟩ := List.forall_mem_cons.mp hmore
      cases hrefusal : codec.refusal? item with
      | some reason =>
          have hstep : Sequence.Step codec.refusal? ⟨items, true⟩
              (.appendAll ([] ++ item :: more) : Call α ε)
              (.failed (.encode (items ++ []).length reason)) ⟨items ++ [], true⟩ :=
            .appendAllRefused items (List.forall_mem_nil _) hrefusal
          rw [List.nil_append, List.append_nil] at hstep
          exact ⟨_, s, d, _, by simp [call, appendAll, append_refused h hrefusal], rfl, hstep, h⟩
      | none =>
          obtain ⟨s', d', happend, hpath, h'⟩ := represents_append h hrefusal (hitem hrefusal)
          obtain ⟨answer, s'', d'', q', hcall, hpath', hstep, h''⟩ := ih h' hmore
          refine ⟨answer, s'', d'', q', ?_, hpath'.trans hpath,
            Sequence.step_appendAll_cons hrefusal hstep, h''⟩
          simpa only [call, appendAll, happend] using hcall

/-- A call on a sequence that stands for a list is a step of the list. -/
theorem represents_call {q : Sequence α} (h : Represents codec s d q) (c : Call α ε)
    (hc : Reads codec c.items) :
    ∃ answer s' d' q', s.call codec d c = (answer, s', d') ∧ s'.path = s.path ∧
      q.Step codec.refusal? c answer q' ∧ Represents codec s' d' q' := by
  obtain ⟨items, _ | _⟩ := q
  · obtain ⟨clean, hread⟩ := h.readable
    obtain ⟨answer, hcall, hstep⟩ := step_call_closed hread h.length h.written c
    exact ⟨answer, s, d, _, hcall, rfl, hstep, h⟩
  cases c with
  | append item =>
      cases hrefusal : codec.refusal? item with
      | some reason =>
          exact ⟨_, s, d, _, by simp [call, append_refused h hrefusal], rfl,
            .appendRefused items hrefusal, h⟩
      | none =>
          obtain ⟨s', d', happend, hpath, h'⟩ :=
            represents_append h hrefusal (hc item (List.mem_singleton_self item) hrefusal)
          exact ⟨.done, s', d', _, by simp [call, happend], hpath, .append items hrefusal, h'⟩
  | appendAll more => exact represents_appendAll h hc
  | range visit =>
      obtain ⟨clean, hread⟩ := h.readable
      obtain ⟨visited, failure, hrange, hvisits⟩ := visits_range hread h.length visit
      exact ⟨_, s, d, _, by simp [call, hrange], rfl, .range ⟨items, true⟩ hvisits, h⟩
  | length => exact ⟨_, s, d, _, by simp [call, h.length], rfl, .length ⟨items, true⟩, h⟩
  | close => exact ⟨_, s.close, d, _, rfl, rfl, .close ⟨items, true⟩, h.node, h.length, rfl, h.reads⟩

theorem represents_calls {q : Sequence α} {cs : List (Call α ε)} (h : Represents codec s d q)
    (hcs : Reads codec (cs.flatMap Call.items)) :
    ∃ answers s' d' q', s.calls codec d cs = (answers, s', d') ∧ s'.path = s.path ∧
      q.Steps codec.refusal? cs answers q' ∧ Represents codec s' d' q' := by
  induction cs generalizing s d q with
  | nil => exact ⟨[], s, d, q, rfl, rfl, .nil q, h⟩
  | cons c cs ih =>
      rw [List.flatMap_cons, Reads, List.forall_mem_append] at hcs
      obtain ⟨answer, s', d', q', hcall, hpath, hstep, h'⟩ := represents_call h c hcs.1
      obtain ⟨answers, s'', d'', q'', hcalls, hpath', hsteps, h''⟩ := ih h' hcs.2
      refine ⟨answer :: answers, s'', d'', q'', ?_, hpath'.trans hpath, .cons hstep hsteps, h''⟩
      simp [calls, hcall, hcalls]

theorem represents_create {path : String} {d' : Disk} (h : create d path = (.ok s, d')) :
    s.path = path ∧ Represents codec s d' {} := by
  obtain ⟨hpath, hwritten, place, hnode⟩ := nodeAt_create h
  have hlength : s.length = 0 := by
    unfold create at h
    split at h
    next => cases h
    next =>
      split at h
      next => cases h
      next =>
        cases h
        rfl
  refine ⟨hpath, ⟨place, ?_⟩, hlength, ?_, by simp⟩
  · rw [hpath, bytesOf_nil]
    exact hnode
  · rw [hwritten, bytesOf_nil, Text.toList_eq_data]
    rfl

theorem create_of_node {path : String} {place : Place} {content : ByteArray}
    (h : d.nodeAt path = .ok (place, .file content)) :
    ∃ s d', create d path = (.ok s, d') := by
  obtain ⟨parent, hparent, -⟩ := Disk.locate_dir (Disk.nodeAt_eq_ok h).1
  obtain ⟨hlocate, hfind⟩ := Disk.nodeAt_eq_ok h
  have hwrite : d.write path ByteArray.empty = .ok (d.put place (.file ByteArray.empty)) := by
    simp [Disk.write, Disk.during, bind, Except.bind, hlocate, hfind, Except.mapError]
  unfold create
  simp only [Disk.makeDirectories_of_nodeAt hparent, hwrite]
  exact ⟨_, _, rfl⟩

/-- Whatever is called on a new sequence, it answers like a list that grows
until it is closed, and so does a sequence that is started in its place; what is
opened afterwards shows the same items, and what is opened after damage shows
those that can still be read. -/
theorem create_faithful {path : String} {d₀ : Disk} {s₀ : Spill} {cs : List (Call α ε)}
    (hcreate : create d path = (.ok s₀, d₀))
    (hcodec : Reads codec (cs.flatMap Call.items)) :
    ∃ answers s₁ d₁ q, s₀.calls codec d₀ cs = (answers, s₁, d₁) ∧
      Sequence.Steps codec.refusal? {} cs answers q ∧
      (∃ s, openFile codec d₁ path = .ok s ∧ s.length = q.items.length ∧
        s.Shows codec d₁ q.items) ∧
      (∃ s₂ d₂, create d₁ path = (.ok s₂, d₂) ∧ ∀ again : List (Call α ε),
        Reads codec (again.flatMap Call.items) →
        ∃ answers s₃ d₃ q, s₂.calls codec d₂ again = (answers, s₃, d₃) ∧
          Sequence.Steps codec.refusal? {} again answers q) ∧
      ∀ (damaged : Disk) (k : Nat) (clean : Bool), k ≤ q.items.length →
        readable codec damaged path = .ok (q.items.take k, clean) →
        ∃ s, openFile codec damaged path = .ok s ∧ s.length = k ∧
          s.Shows codec damaged (q.items.take k) := by
  obtain ⟨hpath, hempty⟩ := represents_create hcreate
  obtain ⟨answers, s₁, d₁, q, hcalls, hpath', hsteps, h⟩ := represents_calls hempty hcodec
  have hpath₁ : s₁.path = path := hpath'.trans hpath
  refine ⟨answers, s₁, d₁, q, hcalls, hsteps, ?_, ?_, ?_⟩
  · obtain ⟨clean, hread⟩ := h.readable
    exact shows_openFile (hpath₁ ▸ hread)
  · obtain ⟨place, hnode⟩ := h.node
    obtain ⟨s₂, d₂, hagain⟩ := create_of_node (hpath₁ ▸ hnode)
    refine ⟨s₂, d₂, hagain, fun again hagain' => ?_⟩
    obtain ⟨-, hempty⟩ := represents_create hagain
    obtain ⟨answers, s₃, d₃, q, hcalls, -, hsteps, -⟩ := represents_calls hempty hagain'
    exact ⟨answers, s₃, d₃, q, hcalls, hsteps⟩
  · intro damaged k clean hk hread
    obtain ⟨s, hopen, hlength, hshows⟩ := shows_openFile hread
    exact ⟨s, hopen, by simpa [hk] using hlength, hshows⟩

/-- Texts as items of one field. Blank ones are refused. -/
def textCodec : Codec String where
  encode text := [text]
  decode? := List.head?
  refusal? text := if text = "" then some "blank text" else none

/-- Calls that fill up to a refused text, visit up to a failure, close and try
again. -/
def textCalls : List (Call String Unit) :=
  [.appendAll ["a", "\x00", "", "c"], .range fun i _ => if i = 1 then some () else none, .close,
    .append "b", .length]

theorem create_faithful_texts :
    ∃ s₀ d₀, create {} "out/texts" = (.ok s₀, d₀) ∧
      Reads textCodec (textCalls.flatMap Call.items) ∧
      ∃ answers s₁ d₁ q, s₀.calls textCodec d₀ textCalls = (answers, s₁, d₁) ∧
        Sequence.Steps textCodec.refusal? {} textCalls answers q ∧
        ∃ s, openFile textCodec d₁ "out/texts" = .ok s ∧ s.length = q.items.length ∧
          s.Shows textCodec d₁ q.items := by
  have hok : (create {} "out/texts").1 = .ok { path := "out/texts", written := some 0 } := by
    decide +kernel
  have hcreate : create {} "out/texts" =
      (.ok { path := "out/texts", written := some 0 }, (create {} "out/texts").2) :=
    Prod.ext hok rfl
  have hreads : Reads textCodec (textCalls.flatMap Call.items) := fun _ _ _ => rfl
  obtain ⟨answers, s₁, d₁, q, hcalls, hsteps, hopen, -, -⟩ := create_faithful hcreate hreads
  exact ⟨_, _, hcreate, hreads, answers, s₁, d₁, q, hcalls, hsteps, hopen⟩

end Spill

end ArchLint
