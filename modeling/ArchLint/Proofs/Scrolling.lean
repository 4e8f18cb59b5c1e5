import ArchLint.Pager
import ArchLint.Proofs.Trimming
import Mathlib.Data.List.Induction

/-!
Where the window of the pager stands on its content. Keys keep it in the range
in which it shows as many lines as it can, and so does a screen that shrinks; a
screen that grows leaves the window where it is, so that it can stand behind
this range until a key moves it up or to an end.
-/

namespace ArchLint

namespace Text

theorem length_splitOn {α : Type} [BEq α] [LawfulBEq α] (a : α) (xs : List α) :
    (xs.splitOn a).length = xs.count a + 1 := by
  induction xs with
  | nil => rfl
  | cons x xs ih =>
      rw [List.splitOn_cons_eq_if_modifyHead, List.count_cons]
      split_ifs
      · rw [List.length_cons, ih]
      · rw [List.length_modifyHead, ih]

theorem length_lines (s : String) : (lines s).length = s.toList.count '\n' + 1 := by
  rw [lines, splitAt, List.length_map, length_splitOn]

theorem count_replaceLoop {pattern replacement : List Char} {c : Char}
    (hcount : replacement.count c = pattern.count c) (n : Nat) (s : List Char) :
    (replaceLoop pattern replacement n s).count c = s.count c := by
  induction n generalizing s with
  | zero => rfl
  | succ n ih =>
      cases s with
      | nil => rfl
      | cons d s =>
          rw [replaceLoop]
          split
          next rest hrest =>
            rw [afterPrefix?_eq_some_iff.mp hrest, List.count_append, List.count_append, ih, hcount]
          next => rw [List.count_cons, List.count_cons, ih]

theorem length_lines_replaceAll (s : String) :
    (lines (replaceAll "\r\n" "\n" s)).length = (lines s).length := by
  rw [length_lines, length_lines, replaceAll, String.toList_ofList, count_replaceLoop (by decide)]

end Text

namespace Viewport

variable {v : Viewport} {n : Nat}

/-- The window stands where its rows are used as well as they can be. -/
def InRange (v : Viewport) : Prop :=
  v.offset ≤ v.lastOffset

theorem inRange_moveTo (v : Viewport) (n : Nat) : (v.moveTo n).InRange :=
  Nat.min_le_right _ _

theorem inRange_scrollDown_iff : (v.scrollDown n).InRange ↔ v.InRange := by
  unfold scrollDown
  split_ifs with hstays
  · rfl
  · refine iff_of_true (inRange_moveTo v _) ?_
    rw [InRange]
    omega

theorem inRange_scrollUp (hn : 0 < n) : (v.scrollUp n).InRange := by
  unfold scrollUp
  split_ifs with hstays
  · rw [InRange]
    omega
  · exact inRange_moveTo v _

end Viewport

namespace Pager

open ArchLint.Text

variable {p : Pager} {content : String} {messages : List Message}

/-- The pager after it was told something. -/
def run (p : Pager) (messages : List Message) : Pager :=
  messages.foldl (fun p m => (p.update m).1) p

theorem run_concat (p : Pager) (messages : List Message) (m : Message) :
    p.run (messages ++ [m]) = ((p.run messages).update m).1 := by
  rw [run, List.foldl_append]
  rfl

/-- Keys that move a window up or to an end, wherever it stands. -/
def Action.IsRestoring : Action → Prop
  | .top | .bottom | .pageUp | .halfPageUp | .lineUp => True
  | .quit | .pageDown | .halfPageDown | .lineDown => False

namespace Message

/-- The height of the screen that a message is about. -/
def height? : Message → Option Int
  | .size _ rows => some rows
  | .key _ => none

def IsRestoring : Message → Prop
  | .size _ _ => False
  | .key name => ∃ action, Action.ofKey? name = some action ∧ action.IsRestoring

end Message

/-- The heights of the screen, in the order in which they were told. -/
def heights (messages : List Message) : List Int :=
  messages.filterMap Message.height?

theorem heights_concat (messages : List Message) (m : Message) :
    heights (messages ++ [m]) = heights messages ++ m.height?.toList := by
  rw [heights, List.filterMap_append]
  cases m <;> rfl

/-- The rows of the window on a screen of some height. -/
def windowRows (height : Int) : Nat :=
  (max (height - reservedRows) 1).toNat

theorem windowRows_pos (height : Int) : 0 < windowRows height := by
  unfold windowRows
  omega

theorem windowRows_mono {height height' : Int} (h : height ≤ height') :
    windowRows height ≤ windowRows height' := by
  unfold windowRows
  omega

section Steps

theorem perform_viewport (p : Pager) (action : Action) :
    (p.perform action).viewport = p.viewport ∨
      ∃ n, (p.perform action).viewport = p.viewport.moveTo n := by
  have hdown : ∀ n, p.viewport.scrollDown n = p.viewport ∨
      ∃ k, p.viewport.scrollDown n = p.viewport.moveTo k := by
    intro n
    unfold Viewport.scrollDown
    split_ifs
    · exact .inl rfl
    · exact .inr ⟨_, rfl⟩
  have hup : ∀ n, p.viewport.scrollUp n = p.viewport ∨
      ∃ k, p.viewport.scrollUp n = p.viewport.moveTo k := by
    intro n
    unfold Viewport.scrollUp
    split_ifs
    · exact .inl rfl
    · exact .inr ⟨_, rfl⟩
  cases action with
  | quit => exact .inl rfl
  | top => exact .inr ⟨_, rfl⟩
  | bottom => exact .inr ⟨_, rfl⟩
  | pageDown => exact hdown _
  | halfPageDown => exact hdown _
  | lineDown => exact hdown _
  | pageUp => exact hup _
  | halfPageUp => exact hup _
  | lineUp => exact hup _

theorem perform_content (p : Pager) (action : Action) :
    (p.perform action).content = p.content := by
  cases action <;> rfl

theorem inRange_perform_iff {action : Action}
    (hbound : p.viewport.offset ≤ p.viewport.lines.length - 1) :
    (p.perform action).viewport.InRange ↔ action.IsRestoring ∨ p.viewport.InRange := by
  have hup : ∀ n, (n = 0 → p.viewport.rows ≤ 1) → (p.viewport.scrollUp n).InRange := by
    intro n hn
    rcases Nat.eq_zero_or_pos n with rfl | hpos
    · have hinRange : p.viewport.InRange := by
        have := hn rfl
        rw [Viewport.InRange, Viewport.lastOffset]
        omega
      simpa [Viewport.scrollUp] using hinRange
    · exact Viewport.inRange_scrollUp hpos
  cases action with
  | quit => exact (or_iff_right id).symm
  | top => exact iff_of_true (Viewport.inRange_moveTo _ _) (.inl trivial)
  | bottom => exact iff_of_true (Viewport.inRange_moveTo _ _) (.inl trivial)
  | pageDown => exact Viewport.inRange_scrollDown_iff.trans (or_iff_right id).symm
  | halfPageDown => exact Viewport.inRange_scrollDown_iff.trans (or_iff_right id).symm
  | lineDown => exact Viewport.inRange_scrollDown_iff.trans (or_iff_right id).symm
  | pageUp => exact iff_of_true (hup _ (by omega)) (.inl trivial)
  | halfPageUp => exact iff_of_true (hup _ (by omega)) (.inl trivial)
  | lineUp => exact iff_of_true (hup _ (by omega)) (.inl trivial)

theorem press_cases (p : Pager) (name : String) :
    (∃ action, Action.ofKey? name = some action ∧ (p.press name).1 = p.perform action) ∨
      Action.ofKey? name = none ∧ (p.press name).1 = p := by
  unfold press
  cases Action.ofKey? name with
  | none => exact .inr ⟨rfl, rfl⟩
  | some action => exact .inl ⟨action, rfl, rfl⟩

theorem inRange_press_iff {name : String}
    (hbound : p.viewport.offset ≤ p.viewport.lines.length - 1) :
    (p.press name).1.viewport.InRange ↔ (Message.key name).IsRestoring ∨ p.viewport.InRange := by
  rcases p.press_cases name with ⟨action, hkey, hpress⟩ | ⟨hkey, hpress⟩
  · rw [hpress, inRange_perform_iff hbound, Message.IsRestoring, hkey]
    simp
  · rw [hpress, Message.IsRestoring, hkey]
    simp

theorem resize_viewport (columns rows : Int)
    (hbound : p.viewport.offset < (lines p.content).length) :
    (p.resize columns rows).viewport =
      { columns := columns
        rows := windowRows rows
        lines := lines (replaceAll "\r\n" "\n" p.content)
        offset := p.viewport.offset } := by
  rw [← length_lines_replaceAll] at hbound
  unfold resize
  dsimp only
  rw [Viewport.withLines, if_neg (by dsimp only; omega)]
  rfl

end Steps

/-- What the messages so far have made of a pager. -/
structure Shows (content : String) (messages : List Message) (p : Pager) : Prop where
  kept : p.content = content
  rows : p.viewport.rows = (heights messages).getLast?.elim 0 windowRows
  length : p.viewport.lines.length =
    (heights messages).getLast?.elim 0 fun _ => (lines content).length
  offset : p.viewport.offset ≤ p.viewport.lines.length - 1

namespace Shows

theorem offset_lt (h : Shows content messages p) : p.viewport.offset < (lines content).length := by
  have hpos : 0 < (lines content).length := by
    rw [length_lines]
    omega
  have hmost : p.viewport.lines.length ≤ (lines content).length := by
    rw [h.length]
    cases (heights messages).getLast? with
    | none => exact Nat.zero_le _
    | some height => exact Nat.le_refl _
  have hoffset := h.offset
  omega

theorem inRange_iff (h : Shows content messages p) :
    p.viewport.InRange ↔ p.viewport.offset ≤ (lines content).length - p.viewport.rows := by
  have hoffset := h.offset
  rw [h.length] at hoffset
  rw [Viewport.InRange, Viewport.lastOffset, h.length, h.rows]
  cases hheight : (heights messages).getLast? with
  | none =>
      rw [hheight] at hoffset
      simp only [Option.elim_none] at hoffset ⊢
      omega
  | some height => rfl

theorem size_viewport (h : Shows content messages p) (columns rows : Int) :
    (p.update (.size columns rows)).1.viewport =
      { columns := columns
        rows := windowRows rows
        lines := lines (replaceAll "\r\n" "\n" p.content)
        offset := p.viewport.offset } := by
  apply resize_viewport
  rw [h.kept]
  exact h.offset_lt

theorem start (title notices content : String) : Shows content [] (start title notices content) :=
  ⟨rfl, rfl, rfl, Nat.zero_le _⟩

theorem of_viewport (h : Shows content messages p) {p' : Pager} (hkept : p'.content = p.content)
    (hviewport : p'.viewport = p.viewport ∨ ∃ n, p'.viewport = p.viewport.moveTo n) :
    Shows content messages p' := by
  rcases hviewport with hsame | ⟨n, hmoved⟩
  · refine ⟨hkept.trans h.kept, ?_, ?_, ?_⟩
    all_goals rw [hsame]
    exacts [h.rows, h.length, h.offset]
  · have hmost : p.viewport.lines.length - p.viewport.rows ≤ p.viewport.lines.length - 1 := by
      rw [h.length, h.rows]
      cases (heights messages).getLast? with
      | none => exact Nat.le_refl 0
      | some height => exact Nat.sub_le_sub_left (windowRows_pos height) _
    refine ⟨hkept.trans h.kept, ?_, ?_, ?_⟩
    all_goals rw [hmoved]
    exacts [h.rows, h.length, (Nat.min_le_right _ _).trans hmost]

theorem of_heights (h : Shows content messages p) {messages' : List Message}
    (hheights : heights messages' = heights messages) : Shows content messages' p := by
  refine ⟨h.kept, ?_, ?_, h.offset⟩
  all_goals rw [hheights]
  exacts [h.rows, h.length]

theorem press (h : Shows content messages p) (name : String) :
    Shows content messages (p.press name).1 := by
  rcases p.press_cases name with ⟨action, -, hpress⟩ | ⟨-, hpress⟩
  · rw [hpress]
    exact h.of_viewport (p.perform_content action) (p.perform_viewport action)
  · rwa [hpress]

theorem step (h : Shows content messages p) (m : Message) :
    Shows content (messages ++ [m]) (p.update m).1 := by
  cases m with
  | key name =>
      apply (h.press name).of_heights
      rw [heights_concat]
      exact List.append_nil _
  | size columns rows =>
      have hviewport := h.size_viewport columns rows
      have hlast : (heights (messages ++ [.size columns rows])).getLast? = some rows := by
        rw [heights_concat]
        exact List.getLast?_concat
      have hlength : (p.update (.size columns rows)).1.viewport.lines.length =
          (lines content).length := by
        rw [hviewport]
        dsimp only
        rw [length_lines_replaceAll, h.kept]
      refine ⟨h.kept, ?_, ?_, ?_⟩
      · rw [hlast, hviewport, Option.elim_some]
      · rw [hlast, hlength, Option.elim_some]
      · rw [hlength, hviewport]
        exact Nat.le_sub_one_of_lt h.offset_lt

theorem run (title notices content : String) (messages : List Message) :
    Shows content messages ((Pager.start title notices content).run messages) := by
  induction messages using List.reverseRecOn with
  | nil => exact start title notices content
  | append_singleton messages m ih =>
      rw [run_concat]
      exact ih.step m

theorem inRange_key_iff (h : Shows content messages p) (name : String) :
    (p.update (.key name)).1.viewport.InRange ↔
      (Message.key name).IsRestoring ∨ p.viewport.InRange :=
  inRange_press_iff h.offset

/-- A size leaves a window in range if its rows are filled from where it
stands. -/
theorem inRange_size_iff (h : Shows content messages p) (columns rows : Int) :
    (p.update (.size columns rows)).1.viewport.InRange ↔
      p.viewport.offset ≤ (lines content).length - windowRows rows := by
  rw [(h.step (.size columns rows)).inRange_iff, h.size_viewport]

end Shows

/-- The last size of the screen has left the window behind its range, and no
key has brought it back. -/
def IsOutgrown (p : Pager) (messages : List Message) : Prop :=
  ∃ before columns rows after, messages = before ++ .size columns rows :: after ∧
    (∀ m ∈ after, m.height? = none ∧ ¬m.IsRestoring) ∧
    (lines p.content).length - windowRows rows < (p.run before).viewport.offset

theorem isOutgrown_concat_size_iff {columns rows : Int} :
    IsOutgrown p (messages ++ [.size columns rows]) ↔
      (lines p.content).length - windowRows rows < (p.run messages).viewport.offset := by
  constructor
  · rintro ⟨before, columns', rows', after, hmessages, hafter, hbehind⟩
    rcases List.eq_nil_or_concat' after with rfl | ⟨after, m, rfl⟩
    · obtain ⟨rfl, hsize⟩ := List.append_inj' hmessages rfl
      cases hsize
      exact hbehind
    · -- the last message would be a key
      rw [← List.cons_append, ← List.append_assoc] at hmessages
      obtain ⟨-, hsize⟩ := List.append_inj' hmessages rfl
      cases hsize
      have hsize := (hafter (.size columns rows) (by simp)).1
      cases hsize
  · intro hbehind
    exact ⟨messages, columns, rows, [], rfl, by simp, hbehind⟩

theorem isOutgrown_concat_key_iff {name : String} :
    IsOutgrown p (messages ++ [.key name]) ↔
      ¬(Message.key name).IsRestoring ∧ IsOutgrown p messages := by
  constructor
  · rintro ⟨before, columns, rows, after, hmessages, hafter, hbehind⟩
    rcases List.eq_nil_or_concat' after with rfl | ⟨after, m, rfl⟩
    · obtain ⟨-, hsize⟩ := List.append_inj' hmessages rfl
      cases hsize
    · rw [← List.cons_append, ← List.append_assoc] at hmessages
      obtain ⟨rfl, hkey⟩ := List.append_inj' hmessages rfl
      cases hkey
      rw [List.forall_mem_append, List.forall_mem_singleton] at hafter
      exact ⟨hafter.2.2, before, columns, rows, after, rfl, hafter.1, hbehind⟩
  · rintro ⟨hkey, before, columns, rows, after, rfl, hafter, hbehind⟩
    refine ⟨before, columns, rows, after ++ [.key name], by simp, ?_, hbehind⟩
    rw [List.forall_mem_append, List.forall_mem_singleton]
    exact ⟨hafter, rfl, hkey⟩

section Runs

variable (title notices content : String) (messages : List Message)

theorem inRange_run_iff : ((start title notices content).run messages).viewport.InRange ↔
    ¬IsOutgrown (start title notices content) messages := by
  induction messages using List.reverseRecOn with
  | nil =>
      refine iff_of_true (Nat.le_refl 0) ?_
      rintro ⟨before, columns, rows, after, hmessages, -⟩
      exact absurd hmessages.symm (by simp)
  | append_singleton messages m ih =>
      have hshows := Shows.run title notices content messages
      rw [run_concat]
      cases m with
      | size columns rows =>
          rw [hshows.inRange_size_iff, isOutgrown_concat_size_iff, Nat.not_lt]
          rfl
      | key name =>
          rw [hshows.inRange_key_iff, isOutgrown_concat_key_iff, ih]
          tauto

theorem inRange_run_of_shrinking (h : (heights messages).Pairwise (· ≥ ·)) :
    ((start title notices content).run messages).viewport.InRange := by
  induction messages using List.reverseRecOn with
  | nil => exact Nat.le_refl 0
  | append_singleton messages m ih =>
      have hshows := Shows.run title notices content messages
      rw [heights_concat, List.pairwise_append] at h
      have hinRange := ih h.1
      rw [run_concat]
      cases m with
      | key name => exact (hshows.inRange_key_iff name).mpr (.inr hinRange)
      | size columns rows =>
          rw [hshows.inRange_size_iff]
          have hbound := hshows.offset
          rw [hshows.inRange_iff, hshows.rows] at hinRange
          rw [hshows.length] at hbound
          cases hheight : (heights messages).getLast? with
          | none =>
              rw [hheight] at hbound
              exact hbound.trans (Nat.zero_le _)
          | some height =>
              rw [hheight] at hinRange
              have hle : rows ≤ height := h.2.2 height (List.mem_of_getLast? hheight) rows (by
                simp [Message.height?])
              exact hinRange.trans (Nat.sub_le_sub_left (windowRows_mono hle) _)

end Runs

/-- The window always shows some line of the content, and it stands behind its
range exactly when the screen has outgrown it. A size of the screen does not
move it. -/
theorem run_offset (title notices content : String) (messages : List Message) :
    let p := (start title notices content).run messages
    p.viewport.rows = (heights messages).getLast?.elim 0 windowRows ∧
      p.viewport.offset < (lines content).length ∧
      (p.viewport.offset ≤ (lines content).length - p.viewport.rows ↔
        ¬IsOutgrown (start title notices content) messages) ∧
      (¬IsOutgrown (start title notices content) messages →
        (lines content).length ≤ p.viewport.rows → p.viewport.offset = 0) ∧
      ((heights messages).Pairwise (· ≥ ·) →
        ¬IsOutgrown (start title notices content) messages) ∧
      ∀ columns rows, (p.update (.size columns rows)).1.viewport.offset = p.viewport.offset := by
  have hshows := Shows.run title notices content messages
  have hiff := (inRange_run_iff title notices content messages).symm.trans hshows.inRange_iff
  refine ⟨hshows.rows, hshows.offset_lt, hiff.symm, ?_, ?_, ?_⟩
  · intro hfits hrows
    have hle := hiff.mp hfits
    omega
  · intro hshrinking
    exact (inRange_run_iff title notices content messages).mp
      (inRange_run_of_shrinking title notices content messages hshrinking)
  · intro columns rows
    rw [hshows.size_viewport]

/-- A window that was moved to its end on a small screen, and back to the start
on a smaller one. -/
theorem run_offset_shrinking :
    let messages : List Message := [.size 20 6, .key "G", .size 20 5, .key "g"]
    (heights messages).Pairwise (· ≥ ·) ∧
      ((start "" "" "a\nb\nc").run messages).viewport.offset ≤ 2 := by
  have hheights : (heights [.size 20 6, .key "G", .size 20 5, .key "g"]).Pairwise (· ≥ ·) := by
    decide
  obtain ⟨hrows, -, hiff, -, hshrinking, -⟩ := run_offset "" "" "a\nb\nc"
    [.size 20 6, .key "G", .size 20 5, .key "g"]
  refine ⟨hheights, ?_⟩
  have hle := hiff.mpr (hshrinking hheights)
  rw [hrows] at hle
  exact hle.trans (by decide)

/-- All lines fit on the screen, but only the last one is shown. -/
theorem run_leaves_first_line :
    let p := (start "" "" "a\nb\nc").run [.size 20 5, .key "G", .size 20 10]
    p.needsPagination = false ∧ (lines "a\nb\nc").length ≤ p.viewport.rows ∧
      ¬p.viewport.offset ≤ (lines "a\nb\nc").length - p.viewport.rows ∧
      p.viewport.lines.drop p.viewport.offset = ["c"] := by
  decide

end Pager

end ArchLint
