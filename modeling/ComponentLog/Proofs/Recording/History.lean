import ComponentLog.Proofs.Recording.Calls
import Mathlib.Data.List.DropRight

/-!
# The present times of a history

What a history of commands says about time, without a cursor: a timeline is set where
a command has set it since the last one that removed it, and its time is then the
latest of these settings. The timelines stand in the order of the first of them.

The cursor of a recording is that list (`cursor_run`): a step of the cursor is shown to
be a step of the history, for one more command at its end.
-/

namespace ComponentLog

/-! ## Times set and removed -/

namespace Command

/-- The time that a command sets. -/
def setting? : Command → Option TimeEntry
  | .setTime timeline kind time => some ⟨timeline, kind, time⟩
  | .setMoment timeline moment => some ⟨timeline, .timestampNanos, moment.nanos?.getD 0⟩
  | _ => none

/-- The time that a command sets on one timeline. -/
def settingOn? (timeline : String) (c : Command) : Option TimeEntry :=
  c.setting?.filter (·.timeline = timeline)

/-- Whether a timeline is removed by a command. -/
def removes (timeline : String) : Command → Bool
  | .disableTimeline t => t = timeline
  | .resetTime => true
  | _ => false

variable {c : Command} {e : TimeEntry} {timeline : String}

theorem settingOn?_eq_some_iff :
    c.settingOn? timeline = some e ↔ c.setting? = some e ∧ e.timeline = timeline := by
  simp [settingOn?, Option.filter_eq_some_iff]

/-- A command that sets a time removes none. -/
theorem removes_of_setting? (h : c.setting? = some e) (timeline : String) :
    c.removes timeline = false := by
  cases c <;> first | rfl | cases h

end Command

namespace History

variable {past : List Command} {c : Command} {e : TimeEntry} {timeline : String} {n : Nat}

/-- The settings of a timeline since it was last removed, with their numbers in the history. -/
def settings (timeline : String) (past : List Command) : List (TimeEntry × Nat) :=
  (past.zipIdx.rtakeWhile fun p => !p.1.removes timeline).filterMap fun p =>
    (p.1.settingOn? timeline).map (·, p.2)

/-- The number of the first setting of a timeline since it was last removed. -/
def firstSet? (timeline : String) (past : List Command) : Option Nat :=
  (settings timeline past).head?.map (·.2)

/-- The latest time that a timeline was set to, unless it was removed since. -/
def latest? (timeline : String) (past : List Command) : Option TimeEntry :=
  (settings timeline past).getLast?.map (·.1)

/-- What a command contributes to the present times: the latest time of its timeline, if the
command was the first to set it. -/
def present? (past : List Command) (p : Command × Nat) : Option TimeEntry :=
  p.1.setting?.bind fun e =>
    if firstSet? e.timeline past = some p.2 then latest? e.timeline past else none

/-- The latest times of the timelines set and not removed since, in the order in which the
timelines were first set. -/
def presentTimes (past : List Command) : TimeCursor := past.zipIdx.filterMap (present? past)

theorem exists_of_mem_settings (h : (e, n) ∈ settings timeline past) :
    ∃ c, past[n]? = some c ∧ c.setting? = some e ∧ e.timeline = timeline := by
  obtain ⟨⟨c, m⟩, hmem, hmap⟩ := List.mem_filterMap.mp h
  obtain ⟨e', hset, heq⟩ := Option.map_eq_some_iff.mp hmap
  cases heq
  have hget := List.mem_zipIdx_iff_getElem?.mp ((List.rtakeWhile_suffix _ _).subset hmem)
  exact ⟨c, hget, Command.settingOn?_eq_some_iff.mp hset⟩

theorem lt_length_of_firstSet? (h : firstSet? timeline past = some n) : n < past.length := by
  obtain ⟨⟨e, m⟩, hhead, rfl⟩ := Option.map_eq_some_iff.mp h
  obtain ⟨c, hget, -⟩ := exists_of_mem_settings (List.mem_of_mem_head? hhead)
  exact (List.getElem?_eq_some_iff.mp hget).1

theorem timeline_of_latest? (h : latest? timeline past = some e) : e.timeline = timeline := by
  obtain ⟨⟨e', n⟩, hlast, rfl⟩ := Option.map_eq_some_iff.mp h
  obtain ⟨c, -, -, htimeline⟩ := exists_of_mem_settings (List.mem_of_getLast? hlast)
  exact htimeline

theorem present?_eq_some_iff {p : Command × Nat} :
    present? past p = some e ↔ ∃ e', p.1.setting? = some e' ∧
      firstSet? e'.timeline past = some p.2 ∧ latest? e'.timeline past = some e := by
  simp [present?, Option.bind_eq_some_iff]

theorem exists_latest?_of_firstSet? (h : firstSet? timeline past = some n) :
    ∃ e, latest? timeline past = some e ∧ e.timeline = timeline := by
  obtain ⟨first, hhead, -⟩ := Option.map_eq_some_iff.mp h
  have hne : settings timeline past ≠ [] := List.ne_nil_of_mem (List.mem_of_mem_head? hhead)
  have hlatest : latest? timeline past = some ((settings timeline past).getLast hne).1 := by
    rw [latest?, List.getLast?_eq_some_getLast hne]
    rfl
  exact ⟨_, hlatest, timeline_of_latest? hlatest⟩

/-- A timeline that has a latest time was set a first time, at some place of the history. -/
theorem exists_first_of_latest? (h : latest? timeline past = some e) :
    ∃ c e' n, past[n]? = some c ∧ c.setting? = some e' ∧ e'.timeline = timeline ∧
      firstSet? timeline past = some n := by
  obtain ⟨last, hlast, -⟩ := Option.map_eq_some_iff.mp h
  have hne : settings timeline past ≠ [] := List.ne_nil_of_mem (List.mem_of_getLast? hlast)
  obtain ⟨⟨e', n⟩, hhead⟩ := Option.isSome_iff_exists.mp (List.isSome_head?.mpr hne)
  obtain ⟨c, hget, hset, htimeline⟩ := exists_of_mem_settings (List.mem_of_mem_head? hhead)
  exact ⟨c, e', n, hget, hset, htimeline, by rw [firstSet?, hhead]; rfl⟩

/-- A time is present exactly when it is the latest of its timeline. -/
theorem mem_presentTimes_iff : e ∈ presentTimes past ↔ latest? e.timeline past = some e := by
  unfold presentTimes
  rw [List.mem_filterMap]
  constructor
  · rintro ⟨p, -, hp⟩
    obtain ⟨e', -, -, hlatest⟩ := present?_eq_some_iff.mp hp
    rwa [timeline_of_latest? hlatest]
  · intro hlatest
    obtain ⟨c, e', n, hget, hset, htimeline, hfirst⟩ := exists_first_of_latest? hlatest
    rw [← htimeline] at hfirst hlatest
    exact ⟨(c, n), List.mem_zipIdx_iff_getElem?.mpr hget,
      present?_eq_some_iff.mpr ⟨e', hset, hfirst, hlatest⟩⟩

/-! ## One more command -/

theorem settings_concat (timeline : String) (past : List Command) (c : Command) :
    settings timeline (past ++ [c]) =
      if c.removes timeline then []
      else settings timeline past ++ ((c.settingOn? timeline).map (·, past.length)).toList := by
  unfold settings
  rw [List.zipIdx_append, List.zipIdx_singleton, List.rtakeWhile_concat, Nat.zero_add]
  cases c.removes timeline with
  | true => rfl
  | false =>
    rw [Bool.not_false, if_pos rfl, if_neg Bool.false_ne_true, List.filterMap_append]
    cases hset : c.settingOn? timeline <;> simp [hset]

theorem settings_concat_of_setting? (h : c.setting? = some e) (timeline : String) :
    settings timeline (past ++ [c]) =
      if e.timeline = timeline then settings timeline past ++ [(e, past.length)]
      else settings timeline past := by
  rw [settings_concat, Command.removes_of_setting? h, if_neg Bool.false_ne_true,
    Command.settingOn?, h, Option.filter_some]
  by_cases ht : e.timeline = timeline <;> simp [ht]

theorem settings_concat_of_none (h : c.setting? = none) (timeline : String) :
    settings timeline (past ++ [c]) =
      if c.removes timeline then [] else settings timeline past := by
  rw [settings_concat, Command.settingOn?, h]
  simp

theorem latest?_concat_of_setting? (h : c.setting? = some e) (timeline : String) :
    latest? timeline (past ++ [c]) =
      if e.timeline = timeline then some e else latest? timeline past := by
  rw [latest?, settings_concat_of_setting? h]
  split
  · rw [List.getLast?_concat]
    rfl
  · rfl

theorem firstSet?_concat_of_setting? (h : c.setting? = some e) (timeline : String) :
    firstSet? timeline (past ++ [c]) =
      if e.timeline = timeline then (firstSet? timeline past).or (some past.length)
      else firstSet? timeline past := by
  rw [firstSet?, settings_concat_of_setting? h]
  split
  · rw [List.head?_append, Option.map_or]
    rfl
  · rfl

theorem latest?_concat_of_none (h : c.setting? = none) (timeline : String) :
    latest? timeline (past ++ [c]) =
      if c.removes timeline then none else latest? timeline past := by
  rw [latest?, settings_concat_of_none h]
  split <;> rfl

theorem firstSet?_concat_of_none (h : c.setting? = none) (timeline : String) :
    firstSet? timeline (past ++ [c]) =
      if c.removes timeline then none else firstSet? timeline past := by
  rw [firstSet?, settings_concat_of_none h]
  split <;> rfl

/-! ## The step of the cursor -/

theorem presentTimes_concat (past : List Command) (c : Command) :
    presentTimes (past ++ [c]) = past.zipIdx.filterMap (present? (past ++ [c])) ++
      (present? (past ++ [c]) (c, past.length)).toList := by
  rw [presentTimes, List.zipIdx_append, List.zipIdx_singleton, Nat.zero_add,
    List.filterMap_append]
  cases hpresent : present? (past ++ [c]) (c, past.length) <;> simp [hpresent]

theorem present?_concat_of_none (h : c.setting? = none) (p : Command × Nat) :
    present? (past ++ [c]) p = (present? past p).filter fun e => !c.removes e.timeline := by
  unfold present?
  cases p.1.setting? with
  | none => rfl
  | some e =>
    rw [Option.bind_some, Option.bind_some, firstSet?_concat_of_none h, latest?_concat_of_none h]
    by_cases hfirst : firstSet? e.timeline past = some p.2
    · obtain ⟨last, hlast, htimeline⟩ := exists_latest?_of_firstSet? hfirst
      cases hremoves : c.removes e.timeline <;>
        simp [hfirst, hlast, htimeline, hremoves, Option.filter_some]
    · cases c.removes e.timeline <;> simp [hfirst]

/-- The timelines that a command removes are no longer present. -/
theorem presentTimes_concat_of_none (h : c.setting? = none) :
    presentTimes (past ++ [c]) =
      (presentTimes past).filter fun e => !c.removes e.timeline := by
  have hlast : present? (past ++ [c]) (c, past.length) = none := by
    rw [present?, h]
    rfl
  rw [presentTimes_concat, hlast, Option.toList_none, List.append_nil, presentTimes,
    List.filter_filterMap]
  exact List.filterMap_congr fun p _ => present?_concat_of_none h p

/-- A setting replaces the time of its timeline at the place the timeline has. -/
theorem present?_concat_of_setting? (h : c.setting? = some e) {p : Command × Nat}
    (hp : p.2 < past.length) :
    present? (past ++ [c]) p =
      (present? past p).map fun old => if old.timeline = e.timeline then e else old := by
  unfold present?
  cases p.1.setting? with
  | none => rfl
  | some e' =>
    rw [Option.bind_some, Option.bind_some, firstSet?_concat_of_setting? h,
      latest?_concat_of_setting? h]
    have hlen : past.length ≠ p.2 := Nat.ne_of_gt hp
    -- a timeline that was set keeps its first setting, one that was not is set at the end only
    by_cases hfirst : firstSet? e'.timeline past = some p.2
    · obtain ⟨last, hlast, htimeline⟩ := exists_latest?_of_firstSet? hfirst
      by_cases htimelines : e.timeline = e'.timeline
      · simp [hfirst, hlast, htimeline, htimelines]
      · simp [hfirst, hlast, htimeline, htimelines, Ne.symm htimelines]
    · by_cases htimelines : e.timeline = e'.timeline
      · cases hother : firstSet? e'.timeline past with
        | none => simp [htimelines, hlen]
        | some n =>
          rw [hother] at hfirst
          simp [htimelines, hfirst]
      · simp [hfirst, htimelines]

theorem any_presentTimes (timeline : String) (past : List Command) :
    (presentTimes past).any (·.timeline = timeline) = (firstSet? timeline past).isSome := by
  rw [Bool.eq_iff_iff, List.any_eq_true]
  constructor
  · rintro ⟨e, hmem, htimeline⟩
    rw [decide_eq_true_eq] at htimeline
    rw [mem_presentTimes_iff, htimeline] at hmem
    obtain ⟨-, -, n, -, -, -, hfirst⟩ := exists_first_of_latest? hmem
    exact Option.isSome_iff_exists.mpr ⟨n, hfirst⟩
  · intro hset
    obtain ⟨n, hfirst⟩ := Option.isSome_iff_exists.mp hset
    obtain ⟨e, hlatest, htimeline⟩ := exists_latest?_of_firstSet? hfirst
    exact ⟨e, mem_presentTimes_iff.mpr (by rwa [htimeline]), decide_eq_true htimeline⟩

/-- A command that sets a timeline sets it first unless the timeline is present. -/
theorem present?_last (h : c.setting? = some e) :
    present? (past ++ [c]) (c, past.length) =
      if (firstSet? e.timeline past).isSome then none else some e := by
  rw [present?, h, Option.bind_some, firstSet?_concat_of_setting? h,
    latest?_concat_of_setting? h]
  cases hfirst : firstSet? e.timeline past with
  | none => simp
  | some n =>
    have hlen := lt_length_of_firstSet? hfirst
    simp [Nat.ne_of_lt hlen]

theorem presentTimes_concat_of_setting? (h : c.setting? = some e) :
    presentTimes (past ++ [c]) = (presentTimes past).set e := by
  have hearlier : past.zipIdx.filterMap (present? (past ++ [c])) =
      (presentTimes past).map fun old => if old.timeline = e.timeline then e else old := by
    rw [presentTimes, List.map_filterMap]
    refine List.filterMap_congr fun p hp => present?_concat_of_setting? h ?_
    exact (List.getElem?_eq_some_iff.mp (List.mem_zipIdx_iff_getElem?.mp hp)).1
  rw [presentTimes_concat, hearlier, present?_last h, TimeCursor.set, any_presentTimes]
  cases hset : (firstSet? e.timeline past).isSome with
  | true => simp
  | false =>
    have hother : ∀ old ∈ presentTimes past, old.timeline ≠ e.timeline := by
      rw [← any_presentTimes, List.any_eq_false] at hset
      simpa using hset
    rw [if_neg Bool.false_ne_true, if_neg Bool.false_ne_true]
    have hkept : (presentTimes past).map (fun old =>
        if old.timeline = e.timeline then e else old) = presentTimes past :=
      (List.map_congr_left fun old hold => if_neg (hother old hold)).trans (List.map_id' _)
    rw [hkept]
    rfl

end History

/-! ## The cursor of a run -/

namespace Recording

variable {σ : Type} [Sink σ] (r : Recording σ) {c : Command}

theorem perform_cursor_of_setting? {e : TimeEntry} (h : c.setting? = some e) :
    (r.perform c).2.cursor = r.cursor.set e := by
  cases c <;> cases h <;> rfl

theorem perform_cursor_of_none (h : c.setting? = none) :
    (r.perform c).2.cursor = r.cursor.filter fun e => !c.removes e.timeline := by
  cases c with
  | setTime | setMoment => cases h
  | disableTimeline timeline =>
    show r.cursor.filter (·.timeline ≠ timeline) = _
    refine List.filter_congr fun e _ => ?_
    simp [Command.removes, eq_comm]
  | resetTime => simp [perform, resetTime, Command.removes]
  | log | logStatic | sendColumns =>
    rw [perform_cursor_of_carriesData _ rfl]
    simp [Command.removes]
  | flush => simp [perform, flush, Command.removes]

/-- The cursor holds the present times of the history. -/
theorem cursor_run (h : r.cursor = []) (cs : List Command) :
    (r.run cs).cursor = History.presentTimes cs := by
  -- from the end: what is latest and what is removed depends on the last command
  induction cs using List.reverseRecOn with
  | nil => exact h
  | append_singleton cs c ih =>
    rw [run_concat]
    cases hset : c.setting? with
    | some e =>
      rw [perform_cursor_of_setting? _ hset, ih, History.presentTimes_concat_of_setting? hset]
    | none => rw [perform_cursor_of_none _ hset, ih, History.presentTimes_concat_of_none hset]

end Recording

end ComponentLog
