import LocaleLint.Proofs.Baseline.Index
import LocaleLint.Proofs.Session.Operation
import LocaleLint.Proofs.Text.Sorted

/-!
# What holds in every session

The state that operations leave behind, in whatever order they come: the order of the baseline lists
what is found in it, no key is empty, counts are those of their values, nothing is suppressed between
records, and the log only grows. An index that is kept beside the session stays in step.
-/

namespace LocaleLint

namespace Baseline

variable {b : Baseline} {name key : Text}

/-- No group is hidden behind another of the same name. -/
theorem Sound.group?_of_mem (sound : b.Sound) {g : Text × Group} (member : g ∈ b.entries) :
    b.group? g.1 = some g.2 :=
  (TextMap.mem_iff_lookup sound.groups).mp member

/-- No entry is hidden behind another of the same key. -/
theorem Sound.get?_of_mem (sound : b.Sound) {g : Text × Group} (member : g ∈ b.entries)
    {e : Text × Entry} (inside : e ∈ g.2) : b.get? g.1 e.1 = some e.2 := by
  have group : b.group? g.1 = some g.2 := sound.group?_of_mem member
  have keys : (g.2.map (·.1)).Nodup := by
    have once := sound.keys g.1
    rwa [Baseline.keys, group] at once
  rw [get?, group, Option.bind_some]
  exact (TextMap.mem_iff_lookup keys).mp inside

theorem Sound.entry (sound : b.Sound) {entry : Entry} (found : b.get? name key = some entry) :
    key ≠ [] ∧ entry.placeholders = Placeholder.count entry.value := by
  constructor
  · apply sound.named name
    rw [mem_keys_iff, found]
    rfl
  · exact congrArg Entry.placeholders (sound.counted name key entry found)

end Baseline

namespace Session

variable {s : Session} {op : Op}

theorem Op.keep_of_ne_reset {α : Type} (h : op ≠ .reset) (nothing old : α) :
    op.keep nothing old = old := by
  cases op with
  | reset => exact absurd rfl h
  | _ => rfl

/-- Only a reset takes anything out of the log. -/
theorem step_log_prefix (silent : s.lineSuppressed = {}) (h : op ≠ .reset) :
    s.log.toList <+: (s.step op).log.toList := by
  rw [step_eq s silent, logAll, after_log, Op.keep_of_ne_reset h, Array.toList_append]
  exact List.prefix_append _ _

/-! ### An index beside the session -/

def noteString (s : Session) (i : Baseline.Index) (key value : Text) : Baseline.Index :=
  if s.seenKeys.contains key || key.isEmpty then i
  else if s.isBase then i.insert s.group key (.ofValue value)
  else i

/-- What becomes of an index when an operation is done. -/
def note (s : Session) (i : Baseline.Index) : Op → Baseline.Index
  | .openFile group => if s.isBase then i.addGroup group else i
  | .checkRecord r => s.noteString i r.key r.value
  | .checkString key value => s.noteString i key value
  | .reset => {}
  | _ => i

def index (s : Session) (i : Baseline.Index) : List Op → Baseline.Index
  | [] => i
  | op :: ops => (s.step op).index (s.note i op) ops

variable {i : Baseline.Index}

theorem noteString_shows (shows : i.Shows s.baseline) (key value : Text) :
    (s.noteString i key value).Shows (s.learn key value).baseline := by
  unfold noteString learn
  split
  · exact shows
  · dsimp only
    split
    · exact Baseline.Index.shows_insert shows s.group key _
    · exact shows

theorem note_shows (silent : s.lineSuppressed = {}) (shows : i.Shows s.baseline) (op : Op) :
    (s.note i op).Shows (s.step op).baseline := by
  rw [step_eq s silent]
  change (s.note i op).Shows (s.after op).baseline
  cases op with
  | enterLocale | closeFile | leaveLocale | warn => exact shows
  | openFile group =>
    change Baseline.Index.Shows (if s.isBase then i.addGroup group else i)
      (if s.isBase then s.baseline.addGroup group else s.baseline)
    split
    · exact Baseline.Index.shows_addGroup shows group
    · exact shows
  | checkRecord r => exact noteString_shows (s := s.atRecord r) shows r.key r.value
  | checkString key value => exact noteString_shows shows key value
  | reset => exact Baseline.Index.shows_empty

theorem index_shows (silent : s.lineSuppressed = {}) (shows : i.Shows s.baseline) (ops : List Op) :
    (s.index i ops).Shows (s.run ops).baseline := by
  induction ops generalizing s i with
  | nil => exact shows
  | cons op ops ih => exact ih (step_silent s silent op) (note_shows silent shows op)

/-! ### Any operations -/

/-- After any operations on a new session, in any order: the groups of the baseline are listed once
each and are those that are found, and so are the keys of each group, also when order and content are
kept apart, in lists beside maps; all that is stored is what is found under its name and key; no key
is empty, in the baseline or among those seen; each entry has the number of placeholders of its
value; and no directive is in force. Whatever operation comes next leaves the log as it is but for
warnings at its end, except for a reset. -/
theorem run_soundness (baseLocale : Text) (suppressed : Suppression) (assignment : Assignment)
    (ops : List Op) :
    let start := new baseLocale suppressed assignment
    let s := start.run ops
    let b := s.baseline
    (start.index {} ops).Shows b ∧
      (b.groups.Nodup ∧ ∀ name, name ∈ b.groups ↔ (b.group? name).isSome = true) ∧
      (∀ name, (b.keys name).Nodup ∧
        ∀ key, key ∈ b.keys name ↔ (b.get? name key).isSome = true) ∧
      (∀ g ∈ b.entries, b.group? g.1 = some g.2 ∧ ∀ e ∈ g.2, b.get? g.1 e.1 = some e.2) ∧
      (∀ name key entry, b.get? name key = some entry →
        key ≠ [] ∧ entry.placeholders = Placeholder.count entry.value) ∧
      [] ∉ s.seenKeys ∧ s.lineSuppressed = {} ∧
      ∀ op, op ≠ .reset → s.log.toList <+: (s.step op).log.toList := by
  intro start s b
  have reachable : s.Reachable := reachable_run (.new baseLocale suppressed assignment) ops
  have shows : (start.index {} ops).Shows b := index_shows rfl Baseline.Index.shows_empty ops
  obtain ⟨sound, seen, silent⟩ := reachable_sound reachable
  refine ⟨shows, ⟨sound.groups, fun name => ?_⟩, fun name => ⟨sound.keys name, fun key => ?_⟩,
    fun g member => ⟨?_, fun e inside => ?_⟩, fun name key entry found => ?_, seen, silent,
    fun op other => ?_⟩
  · exact Baseline.hasGroup_iff.symm
  · exact Baseline.mem_keys_iff
  · exact sound.group?_of_mem member
  · exact sound.get?_of_mem member inside
  · exact sound.entry found
  · exact step_log_prefix silent other

end Session
end LocaleLint
