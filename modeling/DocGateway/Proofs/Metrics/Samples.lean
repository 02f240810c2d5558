import DocGateway.Metrics.Registry
/-!
# Samples of stage durations

Which series a duration is counted in depends on the hash of its labels alone, so that durations
under different labels can end up in one series. No sample is lost by that. Labels whose hashes
differ are counted apart.

## Key results

- `allSamples_stage`: a duration adds one sample, whatever its labels
- `samples_stage`: it adds the sample under its own labels, where the labels in use are told apart
- `mem_labels_stage`: which labels come into use
-/

namespace DocGateway

/-- Labels that differ have keys that differ. -/
def StageLabels.ToldApart (labels : List StageLabels) : Prop :=
  ∀ a ∈ labels, ∀ b ∈ labels, a.key = b.key → a = b

instance (labels : List StageLabels) : Decidable (StageLabels.ToldApart labels) :=
  inferInstanceAs (Decidable (∀ a ∈ labels, ∀ b ∈ labels, a.key = b.key → a = b))

/-- Labels are told apart if more of them are. -/
theorem StageLabels.ToldApart.mono {labels labels' : List StageLabels} (h : ToldApart labels)
    (hsub : labels' ⊆ labels) :
    ToldApart labels' :=
  fun a ha b hb => h a (hsub ha) b (hsub hb)

namespace Metrics

/-- The labels that series of stage durations are kept under. -/
def labels (m : Metrics) : List StageLabels := m.stages.map Prod.fst

/-- The number of samples in the first series that is kept under the labels. -/
def samplesIn (l : StageLabels) (series : List (StageLabels × Histogram)) : Nat :=
  ((series.find? fun s => s.1 == l).map (·.2.count)).getD 0

/-- The number of durations of stages that were counted under the labels. -/
def samples (m : Metrics) (l : StageLabels) : Nat := samplesIn l m.stages

/-- The number of durations of stages that were counted. -/
def allSamples (m : Metrics) : Nat := sum (m.stages.map (·.2.count))

/-- `samplesIn` are those of the first series under the labels. -/
theorem samplesIn_cons (l other : StageLabels) (h : Histogram)
    (series : List (StageLabels × Histogram)) :
    samplesIn l ((other, h) :: series) = if other = l then h.count else samplesIn l series := by
  by_cases ho : other = l
  · simp [samplesIn, ho]
  · simp [samplesIn, ho]

/-- `observeIn` adds no labels but its own. -/
theorem mem_labels_observeIn {labels l : StageLabels} {seconds : Binary64}
    {series : List (StageLabels × Histogram)}
    (h : l ∈ (observeIn labels seconds series).map Prod.fst) :
    l = labels ∨ l ∈ series.map Prod.fst := by
  induction series with
  | nil => exact .inl (by simpa [observeIn] using h)
  | cons s series ih =>
    obtain ⟨other, hist⟩ := s
    rw [observeIn] at h
    -- the series is there, or looked for further back
    split at h
    · exact .inr h
    · obtain rfl | h := List.mem_cons.mp h
      · exact .inr List.mem_cons_self
      · exact (ih h).imp_right (List.mem_cons_of_mem _)

/-- `observeIn` adds one sample under its labels, and none under others. -/
theorem samplesIn_observeIn {labels : StageLabels} {seconds : Binary64}
    {series : List (StageLabels × Histogram)}
    (hapart : StageLabels.ToldApart (labels :: series.map Prod.fst)) (l : StageLabels) :
    samplesIn l (observeIn labels seconds series) =
      samplesIn l series + if labels = l then 1 else 0 := by
  induction series with
  | nil =>
    rw [observeIn, samplesIn_cons]
    split
    · rfl
    · rfl
  | cons s series ih =>
    obtain ⟨other, hist⟩ := s
    rw [observeIn]
    split
    next hkey =>
      -- One key, so one and the same labels.
      have heq : other = labels := hapart other (by simp) labels (by simp) (by simpa using hkey)
      rw [samplesIn_cons, samplesIn_cons, heq]
      split
      · rfl
      · rfl
    next hkey =>
      have hne : other ≠ labels := fun heq => hkey (by rw [heq, beq_self_eq_true])
      have hrest : StageLabels.ToldApart (labels :: series.map Prod.fst) :=
        hapart.mono (List.cons_subset_cons labels (List.subset_cons_self _ _))
      rw [samplesIn_cons, samplesIn_cons, ih hrest]
      by_cases ho : other = l
      · rw [if_pos ho, if_pos ho, if_neg fun h => hne (ho.trans h.symm)]
        rfl
      · rw [if_neg ho, if_neg ho]

/-- `observeIn` adds one sample in all. -/
theorem sum_observeIn (labels : StageLabels) (seconds : Binary64)
    (series : List (StageLabels × Histogram)) :
    sum ((observeIn labels seconds series).map (·.2.count)) = sum (series.map (·.2.count)) + 1 := by
  induction series with
  | nil => rfl
  | cons s series ih =>
    obtain ⟨other, hist⟩ := s
    rw [observeIn]
    split
    · simp only [List.map_cons, sum_cons, Histogram.observe]
      omega
    · simp only [List.map_cons, sum_cons, ih]
      omega

variable (m : Metrics) (labels : StageLabels) (seconds : Binary64)

/-- `stage` adds one sample in all. -/
theorem allSamples_stage : (m.stage labels seconds).allSamples = m.allSamples + 1 :=
  sum_observeIn labels seconds m.stages

/-- `stage` adds no labels but its own. -/
theorem mem_labels_stage {l : StageLabels} (h : l ∈ (m.stage labels seconds).labels) :
    l = labels ∨ l ∈ m.labels :=
  mem_labels_observeIn h

/-- `stage` adds one sample under its labels, and none under others. -/
theorem samples_stage {m : Metrics} {labels : StageLabels}
    (hapart : StageLabels.ToldApart (labels :: m.labels)) (l : StageLabels) :
    (m.stage labels seconds).samples l = m.samples l + if labels = l then 1 else 0 :=
  samplesIn_observeIn hapart l

end Metrics

end DocGateway
