import Mathlib.Data.List.Induction
import RelayGateway.Rollover

/-! # Which heights are in rollover

Heights and sessions of any service are reported to a monitor, in any order and also late, repeated or
empty. The monitor knows the greatest height of all. A window stays until the height has passed it, so
the session that has set it decides for all that time whether there is rollover. A session that is past
when it is reported makes no difference.
-/
namespace RelayGateway.RolloverMonitor

inductive Report where
  | height (height : Nat)
  | session (header : SessionHeader)

namespace Report

/-- The height that is reported; zero is none. -/
def height? : Report → Option Nat
  | height h => if h = 0 then none else some h
  | session _ => none

def end? : Report → Option Nat
  | height _ => none
  | session header => if header.endHeight = 0 then none else some header.endHeight

end Report

def hear (m : RolloverMonitor) : Report → RolloverMonitor
  | .height height => m.recordHeight height
  | .session header => m.recordSession header

def run (m : RolloverMonitor) (reports : List Report) : RolloverMonitor := reports.foldl hear m

variable {m m' : RolloverMonitor} {report : Report} {reports : List Report} {header : SessionHeader}
variable {w : RolloverWindow} {height : Nat}

theorem run_concat (m : RolloverMonitor) (reports : List Report) (report : Report) :
    m.run (reports ++ [report]) = (m.run reports).hear report :=
  List.foldl_append

/-! ## One report -/

theorem recordHeight_frame (m : RolloverMonitor) (height : Nat) :
    (m.recordHeight height).config = m.config ∧ (m.recordHeight height).window = m.window := by
  unfold recordHeight
  split <;> exact ⟨rfl, rfl⟩

theorem recordSession_frame (m : RolloverMonitor) (header : SessionHeader) :
    (m.recordSession header).config = m.config ∧ (m.recordSession header).height = m.height := by
  unfold recordSession
  split <;> exact ⟨rfl, rfl⟩

theorem config_hear (m : RolloverMonitor) (report : Report) : (m.hear report).config = m.config := by
  cases report with
  | height height => exact (recordHeight_frame m height).1
  | session header => exact (recordSession_frame m header).1

theorem config_run (m : RolloverMonitor) (reports : List Report) : (m.run reports).config = m.config :=
  List.foldlRecOn (motive := fun m' : RolloverMonitor => m'.config = m.config) reports hear rfl
    fun m' h report _ => (config_hear m' report).trans h

/-- A height is news exactly when it raises the one that is kept. -/
theorem isNewer_iff (m : RolloverMonitor) (height : Nat) :
    m.isNewer height = true ↔ m.height < (m.recordHeight height).height := by
  unfold recordHeight
  split
  · next hnewer =>
    refine iff_of_true hnewer ?_
    unfold isNewer at hnewer
    cases hheight : m.height with
    | none => exact trivial
    | some h => simpa [hheight] using (Bool.and_eq_true_iff.1 hnewer).2
  · next hnewer =>
    refine iff_of_false hnewer ?_
    cases m.height with
    | none => exact id
    | some h => exact Nat.lt_irrefl h

theorem isOpen_iff : m.isOpen = true ↔
    ∀ w, m.window = some w → ∃ h, m.height = some h ∧ w.last < h := by
  unfold isOpen
  cases m.window with
  | none => simp
  | some w => cases m.height <;> simp

/-- A session without an end, or under a window that is not open, is ignored. -/
theorem recordSession_of_not (h : ¬ (header.endHeight ≠ 0 ∧ m.isOpen = true)) :
    m.recordSession header = m :=
  if_neg h

theorem window_recordSession (hend : header.endHeight ≠ 0) (hopen : m.isOpen = true) :
    (m.recordSession header).window = some (m.windowOf header.endHeight) := by
  unfold recordSession
  rw [if_pos ⟨hend, hopen⟩]

/-- The window stays while the height is not known to have passed it. -/
theorem window_hear (hwindow : m.window = some w) (hactive : ∀ h, m.height = some h → h ≤ w.last)
    (report : Report) : (m.hear report).window = some w := by
  cases report with
  | height height => exact (recordHeight_frame m height).2.trans hwindow
  | session header =>
    have hclosed : ¬ m.isOpen = true := by
      intro hopen
      obtain ⟨h, hheight, hpast⟩ := isOpen_iff.1 hopen w hwindow
      exact Nat.not_lt.2 (hactive h hheight) hpast
    have hsame : m.hear (.session header) = m := recordSession_of_not fun h => hclosed h.2
    rw [hsame]
    exact hwindow

theorem inRollover_iff (hwindow : m.window = some w) : m.inRollover = true ↔
    ∃ h, m.height = some h ∧ w.first ≤ h ∧ h ≤ w.last := by
  unfold inRollover
  rw [hwindow]
  cases m.height <;> simp

theorem inRollover_of_window_none (hwindow : m.window = none) : m.inRollover = false := by
  unfold inRollover
  rw [hwindow]
  cases m.height <;> rfl

theorem inRollover_of_height_none (hheight : m.height = none) : m.inRollover = false := by
  unfold inRollover
  rw [hheight]

/-! ## The greatest height -/

theorem max?_concat (heights : List Nat) (h : Nat) :
    (heights ++ [h]).max? = some (heights.max?.elim h (max · h)) := by
  cases heights with
  | nil => rfl
  | cons x rest =>
    rw [List.cons_append, List.max?_cons', List.max?_cons', List.foldl_append]
    rfl

theorem height_hear (m : RolloverMonitor) (report : Report) : (m.hear report).height =
    match report.height? with
    | none => m.height
    | some h => some (m.height.elim h (max · h)) := by
  cases report with
  | session header => exact (recordSession_frame m header).2
  | height height =>
    unfold hear recordHeight isNewer Report.height?
    cases hheight : m.height with
    | none => by_cases hzero : height = 0 <;> simp [hzero, hheight]
    | some h =>
      by_cases hzero : height = 0
      · simp [hzero, hheight]
      · by_cases hless : h < height
        · simp [hzero, hless, Nat.le_of_lt hless]
        · simp [hzero, hless, hheight, Nat.le_of_not_lt hless]

theorem height_run (config : RolloverConfig) (reports : List Report) :
    ((new config).run reports).height = (reports.filterMap Report.height?).max? := by
  induction reports using List.reverseRecOn with
  | nil => rfl
  | append_singleton reports report ih =>
    rw [run_concat, height_hear, ih, List.filterMap_append]
    cases hheight : report.height? with
    | none => simp [hheight]
    | some h => simp [hheight, max?_concat]

/-- Heights only grow. -/
theorem height_le_run {h : Nat} (hheight : m.height = some h) (reports : List Report) :
    ∃ h', (m.run reports).height = some h' ∧ h ≤ h' := by
  induction reports using List.reverseRecOn with
  | nil => exact ⟨h, hheight, Nat.le_refl h⟩
  | append_singleton reports report ih =>
    obtain ⟨h', hh', hle⟩ := ih
    rw [run_concat, height_hear, hh']
    cases report.height? with
    | none => exact ⟨h', rfl, hle⟩
    | some x => exact ⟨max h' x, rfl, Nat.le_trans hle (Nat.le_max_left h' x)⟩

/-! ## The session that counts -/

/-- A window stays through all that is reported until the height has passed it. -/
theorem window_run (hwindow : m.window = some w)
    (hactive : ∀ h, (m.run reports).height = some h → h ≤ w.last) :
    (m.run reports).window = some w := by
  induction reports using List.reverseRecOn with
  | nil => exact hwindow
  | append_singleton reports report ih =>
    rw [run_concat] at hactive ⊢
    have hbefore : ∀ h, (m.run reports).height = some h → h ≤ w.last := by
      intro h hheight
      obtain ⟨h', hh', hle⟩ := height_le_run hheight [report]
      exact Nat.le_trans hle (hactive h' hh')
    exact window_hear (ih hbefore) hbefore report

/-- Without a height, or without a session that has an end, nothing is in rollover. -/
theorem inRollover_of_blank {config : RolloverConfig}
    (hblank : (∀ report ∈ reports, report.height? = none) ∨ ∀ report ∈ reports, report.end? = none) :
    ((new config).run reports).inRollover = false := by
  rcases hblank with hheights | hends
  · refine inRollover_of_height_none ?_
    rw [height_run, List.filterMap_eq_nil_iff.2 hheights]
    rfl
  · refine inRollover_of_window_none ?_
    refine List.foldlRecOn (motive := fun m : RolloverMonitor => m.window = none) reports hear rfl ?_
    intro m hwindow report hreport
    have hend := hends report hreport
    cases report with
    | height height => exact (recordHeight_frame m height).2.trans hwindow
    | session header =>
      have hzero : header.endHeight = 0 := by
        by_contra hne
        simp [Report.end?, hne] at hend
      have hsame : m.hear (.session header) = m := recordSession_of_not fun h => h.1 hzero
      rw [hsame]
      exact hwindow

/-! ## Sessions that are past -/

/-- The monitors agree on the height, and on the window unless both have left theirs behind. -/
structure Alike (m m' : RolloverMonitor) : Prop where
  config : m.config = m'.config
  height : m.height = m'.height
  window : m.window = m'.window ∨ m.height.isSome = true ∧ m.isOpen = true ∧ m'.isOpen = true

theorem inRollover_of_isOpen (hopen : m.isOpen = true) : m.inRollover = false := by
  cases hwindow : m.window with
  | none => exact inRollover_of_window_none hwindow
  | some w =>
    obtain ⟨h, hheight, hpast⟩ := isOpen_iff.1 hopen w hwindow
    refine Bool.eq_false_iff.2 fun hin => ?_
    obtain ⟨h', hheight', -, hle⟩ := (inRollover_iff hwindow).1 hin
    cases hheight.symm.trans hheight'
    exact Nat.not_lt.2 hle hpast

theorem Alike.inRollover_eq (h : Alike m m') : m.inRollover = m'.inRollover := by
  rcases h.window with hwindow | ⟨-, hopen, hopen'⟩
  · unfold inRollover
    rw [h.height, hwindow]
  · rw [inRollover_of_isOpen hopen, inRollover_of_isOpen hopen']

/-- An open window does not close by itself. -/
theorem isOpen_recordHeight (hopen : m.isOpen = true) (height : Nat) :
    (m.recordHeight height).isOpen = true := by
  refine isOpen_iff.2 fun w hwindow => ?_
  rw [(recordHeight_frame m height).2] at hwindow
  obtain ⟨h, hheight, hpast⟩ := isOpen_iff.1 hopen w hwindow
  obtain ⟨h', hheight', hle⟩ := height_le_run hheight [.height height]
  exact ⟨h', hheight', Nat.lt_of_lt_of_le hpast hle⟩

theorem Alike.hear (h : Alike m m') (report : Report) : Alike (m.hear report) (m'.hear report) := by
  have hconfig : (m.hear report).config = (m'.hear report).config := by
    rw [config_hear, config_hear, h.config]
  have hheight : (m.hear report).height = (m'.hear report).height := by
    rw [height_hear, height_hear, h.height]
  refine ⟨hconfig, hheight, ?_⟩
  cases report with
  | height height =>
    rcases h.window with hwindow | ⟨hsome, hopen, hopen'⟩
    · left
      unfold RolloverMonitor.hear
      rw [(recordHeight_frame m height).2, (recordHeight_frame m' height).2, hwindow]
    · right
      obtain ⟨x, hx⟩ := Option.isSome_iff_exists.1 hsome
      obtain ⟨x', hx', -⟩ := height_le_run hx [.height height]
      exact ⟨Option.isSome_iff_exists.2 ⟨x', hx'⟩, isOpen_recordHeight hopen height,
        isOpen_recordHeight hopen' height⟩
  | session header =>
    rcases h.window with hwindow | ⟨hsome, hopen, hopen'⟩
    · left
      have hsame : m = m' := by
        obtain ⟨config, height, window⟩ := m
        obtain ⟨config', height', window'⟩ := m'
        obtain ⟨rfl, rfl, -⟩ := h
        cases hwindow
        rfl
      rw [hsame]
    · by_cases hend : header.endHeight = 0
      · right
        have hignored : ∀ m : RolloverMonitor, m.hear (.session header) = m :=
          fun m => recordSession_of_not fun h => h.1 hend
        rw [hignored, hignored]
        exact ⟨hsome, hopen, hopen'⟩
      · left
        unfold RolloverMonitor.hear
        rw [window_recordSession hend hopen, window_recordSession hend hopen']
        unfold windowOf
        rw [h.config]

theorem Alike.run (h : Alike m m') (reports : List Report) :
    Alike (m.run reports) (m'.run reports) := by
  induction reports using List.reverseRecOn with
  | nil => exact h
  | append_singleton reports report ih =>
    rw [run_concat, run_concat]
    exact ih.hear report

/-- A session whose window the height has passed leaves the monitor as good as it was. -/
theorem alike_recordSession (hheight : m.height = some height)
    (hpast : saturatingAdd header.endHeight m.config.gracePeriodBlocks < height) :
    Alike (m.recordSession header) m := by
  obtain ⟨hconfig, hsame⟩ := recordSession_frame m header
  refine ⟨hconfig, hsame, ?_⟩
  by_cases hmoves : header.endHeight ≠ 0 ∧ m.isOpen = true
  · right
    refine ⟨Option.isSome_iff_exists.2 ⟨height, hsame.trans hheight⟩, ?_, hmoves.2⟩
    refine isOpen_iff.2 fun w hwindow => ⟨height, hsame.trans hheight, ?_⟩
    cases (window_recordSession hmoves.1 hmoves.2).symm.trans hwindow
    exact hpast
  · left
    rw [recordSession_of_not hmoves]

/-! ## Every run -/

/-- What can be said of a monitor after it has been told this much, whatever it is told later. -/
structure Regular (config : RolloverConfig) (reports : List Report) (m : RolloverMonitor) : Prop where
  /-- The height is the greatest that was reported. -/
  height : m.height = (reports.filterMap Report.height?).max?
  /-- A height counts as newer exactly when it raises the one that is kept. -/
  newer : ∀ height, m.isNewer height = true ↔ m.height < (m.recordHeight height).height
  /-- No report moves a window while the height is unknown or not past its end. -/
  held : ∀ w, m.window = some w → (∀ h, m.height = some h → h ≤ w.last) →
    ∀ report, (m.hear report).window = some w
  /-- A session that is recorded when there is no window, or the height is past it, decides until the
  height is past its own. -/
  decides : ∀ header : SessionHeader, header.endHeight ≠ 0 →
    (∀ w, m.window = some w → ∃ h, m.height = some h ∧ w.last < h) →
    ∀ later, (∀ h, ((m.recordSession header).run later).height = some h →
      h ≤ saturatingAdd header.endHeight config.gracePeriodBlocks) →
    (((m.recordSession header).run later).inRollover = true ↔
      ∃ h, ((m.recordSession header).run later).height = some h ∧ header.endHeight - 1 ≤ h ∧
        h ≤ saturatingAdd header.endHeight config.gracePeriodBlocks)
  blank : (∀ report ∈ reports, report.height? = none) ∨ (∀ report ∈ reports, report.end? = none) →
    m.inRollover = false
  /-- A session that is past turns nothing on, at once or later. -/
  stale : ∀ header : SessionHeader, ∀ h, m.height = some h →
    saturatingAdd header.endHeight config.gracePeriodBlocks < h →
    ∀ later, ((m.recordSession header).run later).inRollover = (m.run later).inRollover

/-- The monitor keeps to its rules whatever it is told, and in whatever order. -/
theorem run_window (config : RolloverConfig) (reports : List Report) :
    Regular config reports ((new config).run reports) := by
  have hconfig : ((new config).run reports).config = config := config_run (new config) reports
  have hheight := height_run config reports
  have hblank : (∀ report ∈ reports, report.height? = none) ∨ (∀ report ∈ reports, report.end? = none) →
      ((new config).run reports).inRollover = false := inRollover_of_blank
  generalize (new config).run reports = m at hconfig hheight hblank
  subst hconfig
  refine ⟨hheight, m.isNewer_iff, fun w => window_hear, ?_, hblank, ?_⟩
  · intro header hend hopen later hactive
    have hset := window_recordSession hend (isOpen_iff.2 hopen)
    exact inRollover_iff (window_run hset hactive)
  · intro header h hheight hpast later
    exact ((alike_recordSession hheight hpast).run later).inRollover_eq

section Example

def endingAt (endHeight : Nat) : SessionHeader := ⟨"session", "eth", "app", 900, endHeight⟩

/-- A later session does not take the window over, and the flag is on until the grace is over. -/
theorem window_outlasts_later_session :
    (((new ⟨5, 15, 10⟩).run [.height 999]).recordSession (endingAt 1000)).inRollover = true ∧
      ((((new ⟨5, 15, 10⟩).run [.height 999]).recordSession (endingAt 1000)).run
        [.session (endingAt 1060), .height 1005]).inRollover = true := by
  refine ⟨by decide, ?_⟩
  refine ((run_window ⟨5, 15, 10⟩ [.height 999]).decides (endingAt 1000) (by decide) nofun
    [.session (endingAt 1060), .height 1005] ?_).2 ⟨1005, rfl, by decide, by decide⟩
  rintro h ⟨⟩
  decide

end Example

end RelayGateway.RolloverMonitor
