import DocGateway.Pipeline.Run
import DocGateway.Proofs.Metrics.Samples
/-!
# The layers of a pipeline, one inside the other

What the layers of a pipeline do to one request is told by two relations that say nothing of how a
pipeline is run: which layers the request is handed to, and what each gives back to the one outside.
A run agrees with them: stages are entered from the outside to the inside and leave the other way
round, a layer works if and only if the one outside passes the request on before it is cancelled,
and each stage that leaves adds one sample to the durations, under its place, its name, and how it
ended.

## Key results

- `gives_layer`, `Gives.eq_layer`: a run gives back what the relation says, and nothing else
- `entered_mem_layer`, `terminal_mem_layer`, `left_mem_layer`: which layers a run comes to, and
  which stages leave
- `nested_layer`: in which order
- `isOnion_run_timed`: a whole run, with the samples that it adds
-/

namespace DocGateway

/-! ### Layers one inside the other -/

/-- Whether a layer answered. -/
def Outcome.IsAnswer (o : Outcome) : Prop := ∃ a, o = .answered a

/-- The labels of a stage: its place, its name, and whether it succeeded. -/
def StageLabels.ofStage (position : Nat) (stage : String) (succeeded : Bool) : StageLabels :=
  ⟨toString position, stage, if succeeded then "success" else "error"⟩

namespace LayerEvent

/-- The place of a stage that leaves. -/
def exit? : LayerEvent → Option Nat
  | .left position _ _ => some position
  | _ => none

/-- What the duration of a stage that leaves is counted under. -/
def labels? : LayerEvent → Option StageLabels
  | .left position stage succeeded => some (.ofStage position stage succeeded)
  | _ => none

/-- From a place on, stages are entered one after another; then the terminal layer may work; then
stages leave down to the place `out`, the innermost first. -/
def Nested (position depth out : Nat) (events : List LayerEvent) : Prop :=
  ∃ inner exits, events = (List.range' position depth).map .entered ++ inner ++ exits ∧
    (inner = [] ∨ inner = [.terminal]) ∧ exits.map exit? =
      (List.range' out (position + depth - out)).reverse.map some

/-- A stage that answers leaves, one that does not never does. -/
def exits (position : Nat) (stage : String) : Outcome → List LayerEvent
  | .answered a => [.left position stage a.isOk]
  | _ => []

/-- A stage that does not answer has no exit. -/
theorem exits_of_broken {k : Nat} {stage : String} {o : Outcome} (h : ¬o.IsAnswer) :
    exits k stage o = [] := by
  cases o with
  | answered a => exact absurd ⟨a, rfl⟩ h
  | crashed => rfl
  | stalled => rfl

namespace Nested

/-- No layer at all is nested. -/
theorem nil (k : Nat) : Nested k 0 k [] := ⟨[], [], rfl, .inl rfl, by simp⟩

/-- The terminal layer by itself is nested. -/
theorem terminal (k : Nat) : Nested k 0 k [.terminal] := ⟨[.terminal], [], rfl, .inr rfl, by simp⟩

/-- `Nested` is kept by a stage around others that does not leave. -/
theorem enter {k depth out : Nat} {events : List LayerEvent} (h : Nested (k + 1) depth out events) :
    Nested k (depth + 1) out (.entered k :: events) := by
  obtain ⟨inner, exits, rfl, hinner, hexits⟩ := h
  refine ⟨inner, exits, by simp [List.range'_succ], hinner, ?_⟩
  rw [hexits, show k + (depth + 1) - out = k + 1 + depth - out by omega]

/-- `Nested` is kept by a stage that leaves around others that have left. -/
theorem leave {k depth : Nat} {events : List LayerEvent} (h : Nested (k + 1) depth (k + 1) events)
    (name : String) (ok : Bool) :
    Nested k (depth + 1) k (.entered k :: events ++ [.left k name ok]) := by
  obtain ⟨inner, exits, rfl, hinner, hexits⟩ := h
  refine ⟨inner, exits ++ [.left k name ok], by simp [List.range'_succ], hinner, ?_⟩
  rw [show k + 1 + depth - (k + 1) = depth by omega] at hexits
  rw [show k + (depth + 1) - k = depth + 1 by omega, List.map_append, hexits, List.range'_succ,
    List.reverse_cons, List.map_append]
  rfl

/-- In `Nested` events, each stage that was entered leaves if the outermost one does. -/
theorem exists_left {k depth j : Nat} {events : List LayerEvent} (h : Nested k depth k events)
    (hj : .entered j ∈ events) :
    ∃ name ok, .left j name ok ∈ events := by
  obtain ⟨inner, exits, rfl, hinner, hexits⟩ := h
  -- stages leave from the places that they were entered at
  have hrange : j ∈ List.range' k depth := by
    rw [List.append_assoc, List.mem_append, List.mem_append] at hj
    obtain hj | hj | hj := hj
    · simpa using hj
    · obtain rfl | rfl := hinner
      · cases hj
      · simp at hj
    · have : none ∈ exits.map exit? := List.mem_map.mpr ⟨_, hj, rfl⟩
      simp [hexits] at this
  have hmem : some j ∈ exits.map exit? := by
    rw [hexits, Nat.add_sub_cancel_left]
    simpa using hrange
  obtain ⟨e, he, hexit⟩ := List.mem_map.mp hmem
  cases e with
  | left j' name ok =>
    cases hexit
    exact ⟨name, ok, List.mem_append_right _ he⟩
  | entered j' => cases hexit
  | terminal => cases hexit

/-- In `Nested` events, no stage leaves twice. -/
theorem nodup_exits {k depth out : Nat} {events : List LayerEvent} (h : Nested k depth out events) :
    (events.filterMap exit?).Nodup := by
  obtain ⟨inner, exits, rfl, hinner, hexits⟩ := h
  have hnone : ((List.range' k depth).map LayerEvent.entered).filterMap exit? = [] := by
    rw [List.filterMap_eq_nil_iff]
    intro e he
    obtain ⟨j, -, rfl⟩ := List.mem_map.mp he
    rfl
  have hinnerNone : inner.filterMap exit? = [] := by
    obtain rfl | rfl := hinner
    · rfl
    · rfl
  -- layers are left in the reverse order of their places, each once
  have hfilter : exits.filterMap exit? = (List.range' out (k + depth - out)).reverse := by
    have := congrArg (List.filterMap id) hexits
    simpa [List.filterMap_map] using this
  rw [List.filterMap_append, List.filterMap_append, hnone, hinnerNone, hfilter]
  exact List.pairwise_reverse.mpr ((List.nodup_range' (n := k + depth - out) 1).imp fun h => h.symm)

end Nested

/-! ### Samples of the stages that leave -/

variable {m : Metrics} {events : List LayerEvent}

/-- `recordAll` takes the events in turn. -/
theorem recordAll_cons (m : Metrics) (e : LayerEvent) (events : List LayerEvent) :
    recordAll m (e :: events) = recordAll (record m e) events := rfl

/-- `labels?` tell the place that `exit?` does. -/
theorem exit?_of_labels? {e : LayerEvent} {l : StageLabels} (h : e.labels? = some l) :
    ∃ k, e.exit? = some k ∧ l.position = toString k := by
  cases e with
  | left k stage ok =>
    cases h
    exact ⟨k, rfl, rfl⟩
  | entered k => cases h
  | terminal => cases h

/-- Different places have different labels. -/
private theorem toString_injective {m n : Nat} (h : toString m = toString n) : m = n := by
  have hdigits : Nat.toDigits 10 m = Nat.toDigits 10 n := by
    simpa [Nat.repr_eq_ofList_toDigits] using congrArg String.toList h
  rw [← Nat.ofDigitChars_ten_toDigits (n := m), hdigits, Nat.ofDigitChars_ten_toDigits]

/-- `labels?` of stages that leave from different places differ. -/
theorem nodup_labels (h : (events.filterMap exit?).Nodup) : (events.filterMap labels?).Nodup := by
  induction events with
  | nil => exact List.nodup_nil
  | cons e events ih =>
    cases hlabels : e.labels? with
    | none =>
      rw [List.filterMap_cons_none hlabels]
      exact ih (h.sublist ((List.sublist_cons_self e events).filterMap exit?))
    | some l =>
      obtain ⟨k, hexit, hposition⟩ := exit?_of_labels? hlabels
      rw [List.filterMap_cons_some hexit, List.nodup_cons] at h
      rw [List.filterMap_cons_some hlabels, List.nodup_cons]
      refine ⟨fun hmem => h.1 ?_, ih h.2⟩
      obtain ⟨e', he', hlabels'⟩ := List.mem_filterMap.mp hmem
      obtain ⟨k', hexit', hposition'⟩ := exit?_of_labels? hlabels'
      -- labels name the place, so equal labels are of one layer
      have hk : k = k' := toString_injective (hposition.symm.trans hposition')
      exact List.mem_filterMap.mpr ⟨e', he', hk ▸ hexit'⟩

/-- `recordAll` adds one sample for each stage that leaves. -/
theorem allSamples_recordAll (m : Metrics) (events : List LayerEvent) :
    (recordAll m events).allSamples = m.allSamples + (events.filterMap exit?).length := by
  induction events generalizing m with
  | nil => rfl
  | cons e events ih =>
    rw [recordAll_cons, ih]
    cases e with
    | left k stage ok =>
      have hexit : (LayerEvent.left k stage ok).exit? = some k := rfl
      rw [record, Metrics.allSamples_stage, List.filterMap_cons_some hexit, List.length_cons]
      omega
    | entered k => rfl
    | terminal => rfl

/-- `recordAll` adds samples under the labels of the stages that leave, and under no others. -/
theorem samples_recordAll (hapart : StageLabels.ToldApart (events.filterMap labels? ++ m.labels))
    (l : StageLabels) :
    (recordAll m events).samples l = m.samples l + (events.filterMap labels?).count l := by
  -- by induction on the events; what an event adds must not fall together with what is there
  induction events generalizing m with
  | nil => rfl
  | cons e events ih =>
    rw [recordAll_cons]
    cases hlabels : e.labels? with
    | none =>
      have hrecord : record m e = m := by
        cases e with
        | left k stage ok => cases hlabels
        | entered k => rfl
        | terminal => rfl
      rw [List.filterMap_cons_none hlabels] at hapart ⊢
      rw [hrecord, ih hapart]
    | some own =>
      obtain ⟨seconds, hrecord⟩ : ∃ seconds, record m e = m.stage own seconds := by
        cases e with
        | left k stage ok => cases hlabels; exact ⟨_, rfl⟩
        | entered k => cases hlabels
        | terminal => cases hlabels
      rw [List.filterMap_cons_some hlabels] at hapart ⊢
      have hhead : StageLabels.ToldApart (own :: m.labels) := hapart.mono (by simp)
      have hrest : StageLabels.ToldApart
          (events.filterMap labels? ++ (m.stage own seconds).labels) := by
        refine hapart.mono fun x hx => ?_
        obtain hx | hx := List.mem_append.mp hx
        · exact List.mem_cons_of_mem _ (List.mem_append_left _ hx)
        · obtain rfl | hx := Metrics.mem_labels_stage m own seconds hx
          · exact List.mem_cons_self
          · exact List.mem_cons_of_mem _ (List.mem_append_right _ hx)
      rw [hrecord, ih hrest, Metrics.samples_stage seconds hhead, List.count_cons]
      simp only [beq_iff_eq]
      omega

end LayerEvent

/-- `ofStage` puts the entry of the stage before what happens inside, and its exit behind. -/
theorem Passage.ofStage_eq {σ : Type} (position : Nat) (name : String) (o : Outcome) (s : Scene σ)
    (inside : List LayerEvent) :
    Passage.ofStage position name o s inside =
      ⟨o, s, .entered position :: inside ++ LayerEvent.exits position name o⟩ := by
  cases o with
  | answered a => rfl
  | crashed => exact congrArg (Passage.mk _ s) (List.append_nil _).symm
  | stalled => exact congrArg (Passage.mk _ s) (List.append_nil _).symm

namespace Pipeline

variable {σ : Type}

/-! ### What the layers do to a request -/

section

variable (p : Pipeline σ) (cancelled : Cancellation) (scene : Scene σ)

/-- The layer at a place is handed the request, in a scene: the outermost by the gateway, any other
by the stage around it, which was entered and passes the request on. -/
inductive Calls : Nat → Scene σ → Prop
  | outermost : Calls 0 scene
  | next {k : Nat} {s s' : Scene σ} {stage : Stage σ} {leave : Answer → Scene σ → Outcome × Scene σ}
      (called : Calls k s)
      (alive : cancelled k = false) (found : p.stages[k]? = some stage)
      (passes : stage.enter s.tick = .pass s' leave) :
      Calls (k + 1) s'

/-- What the layer at a place gives back. -/
inductive Gives : Nat → Outcome → Scene σ → Prop
  /-- A request that was cancelled before fails. -/
  | cancelled {k : Nat} {s : Scene σ} (called : p.Calls cancelled scene k s)
      (cut : cancelled k = true) :
      Gives k (.failure .cancelled) s.tick
  | terminal {s : Scene σ} (called : p.Calls cancelled scene p.stages.length s)
      (alive : cancelled p.stages.length = false) :
      Gives p.stages.length (p.terminal s.tick).1 (p.terminal s.tick).2
  /-- A stage that does not pass the request on has its own end. -/
  | stopped {k : Nat} {s s' : Scene σ} {stage : Stage σ} {o : Outcome}
      (called : p.Calls cancelled scene k s)
      (alive : cancelled k = false) (found : p.stages[k]? = some stage)
      (stops : stage.enter s.tick = .stop o s') : Gives k o s'
  /-- A stage that passes it on makes its end of the answer of the layer inside. -/
  | passed {k : Nat} {s s₁ s₂ : Scene σ} {stage : Stage σ}
      {leave : Answer → Scene σ → Outcome × Scene σ} {a : Answer}
      (called : p.Calls cancelled scene k s) (alive : cancelled k = false)
      (found : p.stages[k]? = some stage)
      (passes : stage.enter s.tick = .pass s₁ leave) (inside : Gives (k + 1) (.answered a) s₂) :
      Gives k (leave a s₂).1 (leave a s₂).2
  /-- A layer that does not answer takes the stage around it with it. -/
  | broken {k : Nat} {s s₁ s₂ : Scene σ} {stage : Stage σ}
      {leave : Answer → Scene σ → Outcome × Scene σ} {o : Outcome}
      (called : p.Calls cancelled scene k s) (alive : cancelled k = false)
      (found : p.stages[k]? = some stage)
      (passes : stage.enter s.tick = .pass s₁ leave) (inside : Gives (k + 1) o s₂)
      (breaks : ¬o.IsAnswer) : Gives k o s₂

/-- The layer at a place is handed the request, which is not cancelled by then. -/
def Comes (k : Nat) : Prop := cancelled k = false ∧ ∃ s, p.Calls cancelled scene k s

/-- The stage at a place is entered and answers, under its own name and with success or not as its
own answer is. -/
def LeavesAs (k : Nat) (name : String) (succeeded : Bool) : Prop :=
  p.Comes cancelled scene k ∧ ∃ stage a s, p.stages[k]? = some stage ∧
    p.Gives cancelled scene k (.answered a) s ∧
    name = stage.name ∧ succeeded = a.isOk

/-- The run of the layers from a place on. -/
def layer (k : Nat) (s : Scene σ) : Passage σ :=
  Passage.run p.terminal cancelled k (p.stages.drop k) s

end

variable {p : Pipeline σ} {cancelled : Cancellation} {scene : Scene σ} {k : Nat} {s : Scene σ}

/-- The layer outside one that is called is a stage that passes the request on. -/
theorem Calls.outside (h : p.Calls cancelled scene (k + 1) s) :
    ∃ s₀ stage leave, p.Calls cancelled scene k s₀ ∧ cancelled k = false ∧
      p.stages[k]? = some stage ∧
      stage.enter s₀.tick = .pass s leave := by
  cases h with
  | next called alive found passes => exact ⟨_, _, _, called, alive, found, passes⟩

/-- `Calls` hands a layer one scene. -/
theorem Calls.eq {s' : Scene σ} (h : p.Calls cancelled scene k s)
    (h' : p.Calls cancelled scene k s') : s = s' := by
  induction h generalizing s' with
  | outermost =>
    cases h'
    rfl
  | next called alive found passes ih =>
    obtain ⟨s₀, stage, leave, called', -, found', passes'⟩ := h'.outside
    -- one scene outside, so one stage that passes one request on
    obtain rfl := ih called'
    obtain rfl := Option.some_inj.mp (found.symm.trans found')
    cases passes.symm.trans passes'
    rfl

/-- `Calls` skips no layer. -/
theorem Calls.inward {j : Nat} (h : p.Calls cancelled scene j s) (hk : k < j) :
    ∃ s', p.Calls cancelled scene (k + 1) s' := by
  induction h with
  | outermost => cases hk
  | next called alive found passes ih =>
    obtain hk | rfl := Nat.lt_succ_iff_lt_or_eq.mp hk
    · exact ih hk
    · exact ⟨_, .next called alive found passes⟩

/-! ### One layer of a run -/

/-- `layer` of a request that is cancelled by then fails. -/
theorem layer_of_cut (cut : cancelled k = true) :
    p.layer cancelled k s = ⟨.failure .cancelled, s.tick, []⟩ := by
  rw [layer, Passage.run.eq_def]
  exact if_pos cut

/-- `layer` behind the last stage is the terminal one. -/
theorem layer_of_last (alive : cancelled k = false) (hk : p.stages.length ≤ k) :
    p.layer cancelled k s = ⟨(p.terminal s.tick).1, (p.terminal s.tick).2, [.terminal]⟩ := by
  rw [layer, List.drop_eq_nil_of_le hk, Passage.run, if_neg (by simp [alive])]

variable {stage : Stage σ}

/-- `layer` at a stage is what the stage decides, with the layers inside. -/
private theorem layer_of_stage (alive : cancelled k = false) (found : p.stages[k]? = some stage) :
    p.layer cancelled k s = match stage.enter s.tick with
      | .stop o s' => .ofStage k stage.name o s' []
      | .pass s' leave =>
        match (p.layer cancelled (k + 1) s').outcome with
        | .answered a =>
          .ofStage k stage.name (leave a (p.layer cancelled (k + 1) s').scene).1
            (leave a (p.layer cancelled (k + 1) s').scene).2 (p.layer cancelled (k + 1) s').events
        | broken =>
          .ofStage k stage.name broken (p.layer cancelled (k + 1) s').scene
            (p.layer cancelled (k + 1) s').events := by
  obtain ⟨hk, rfl⟩ := List.getElem?_eq_some_iff.mp found
  rw [layer, List.drop_eq_getElem_cons hk, Passage.run, if_neg (by simp [alive])]
  rfl

/-- `layer` at a stage that stops the request. -/
theorem layer_of_stop (alive : cancelled k = false) (found : p.stages[k]? = some stage)
    {o : Outcome} {s' : Scene σ} (stops : stage.enter s.tick = .stop o s') :
    p.layer cancelled k s = ⟨o, s', .entered k :: LayerEvent.exits k stage.name o⟩ := by
  rw [layer_of_stage alive found, stops]
  exact Passage.ofStage_eq k stage.name o s' []

variable {s' : Scene σ} {leave : Answer → Scene σ → Outcome × Scene σ}

/-- `layer` at a stage that passes the request on, and gets an answer. -/
theorem layer_of_pass (alive : cancelled k = false) (found : p.stages[k]? = some stage)
    (passes : stage.enter s.tick = .pass s' leave) {a : Answer}
    (answers : (p.layer cancelled (k + 1) s').outcome = .answered a) :
    p.layer cancelled k s =
      ⟨(leave a (p.layer cancelled (k + 1) s').scene).1,
        (leave a (p.layer cancelled (k + 1) s').scene).2,
        .entered k :: (p.layer cancelled (k + 1) s').events ++
          LayerEvent.exits k stage.name (leave a (p.layer cancelled (k + 1) s').scene).1⟩ := by
  rw [layer_of_stage alive found, passes]
  simp only [answers]
  exact Passage.ofStage_eq k stage.name _ _ _

/-- `layer` at a stage that passes the request on, and gets no answer. -/
theorem layer_of_break (alive : cancelled k = false) (found : p.stages[k]? = some stage)
    (passes : stage.enter s.tick = .pass s' leave)
    (breaks : ¬(p.layer cancelled (k + 1) s').outcome.IsAnswer) :
    p.layer cancelled k s =
      ⟨(p.layer cancelled (k + 1) s').outcome, (p.layer cancelled (k + 1) s').scene,
        .entered k :: (p.layer cancelled (k + 1) s').events⟩ := by
  rw [layer_of_stage alive found, passes]
  simp only
  split
  next a ha => exact absurd ⟨a, ha⟩ breaks
  next => rw [Passage.ofStage_eq, LayerEvent.exits_of_broken breaks, List.append_nil]

/-- The events at a stage that passes the request on: its entry, those inside, and its exit if it
answers. -/
theorem events_of_pass (alive : cancelled k = false) (found : p.stages[k]? = some stage)
    (passes : stage.enter s.tick = .pass s' leave) :
    (p.layer cancelled k s).events =
      .entered k :: (p.layer cancelled (k + 1) s').events ++ LayerEvent.exits k stage.name
        (p.layer cancelled k s).outcome := by
  by_cases hanswer : (p.layer cancelled (k + 1) s').outcome.IsAnswer
  · obtain ⟨a, answers⟩ := hanswer
    rw [layer_of_pass alive found passes answers]
  · rw [layer_of_break alive found passes hanswer, LayerEvent.exits_of_broken hanswer,
      List.append_nil]

/-- A case for each way through a `layer`, with the layer inside where the request is passed on. -/
theorem layer_induction (p : Pipeline σ) (cancelled : Cancellation) {motive : Nat → Scene σ → Prop}
    (cut : ∀ k s, cancelled k = true → motive k s)
    (last : ∀ k s, cancelled k = false → p.stages.length ≤ k → motive k s)
    (stop : ∀ k s stage o s', cancelled k = false → p.stages[k]? = some stage →
      stage.enter s.tick = .stop o s' → motive k s)
    (pass : ∀ k s stage s' leave, cancelled k = false → p.stages[k]? = some stage →
      stage.enter s.tick = .pass s' leave →
      motive (k + 1) s' → motive k s) (k : Nat) (s : Scene σ) : motive k s := by
  -- on the number of stages from the place on
  generalize hn : p.stages.length - k = n
  induction n generalizing k s with
  | zero =>
    cases hcut : cancelled k with
    | true => exact cut k s hcut
    | false => exact last k s hcut (by omega)
  | succ n ih =>
    cases hcut : cancelled k with
    | true => exact cut k s hcut
    | false =>
      have found := List.getElem?_eq_getElem (show k < p.stages.length by omega)
      cases henter : p.stages[k].enter s.tick with
      | stop o s' => exact stop k s _ o s' hcut found henter
      | pass s' leave => exact pass k s _ s' leave hcut found henter (ih (k + 1) s' (by omega))

/-! ### What a run gives back -/

/-- `Calls` goes no further than the terminal layer. -/
theorem Calls.le_length (h : p.Calls cancelled scene k s) : k ≤ p.stages.length := by
  cases h with
  | outermost => exact Nat.zero_le _
  | next called alive found passes => exact (List.getElem?_eq_some_iff.mp found).1

/-- `Gives` holds of what `layer` comes to. -/
theorem gives_layer (h : p.Calls cancelled scene k s) :
    p.Gives cancelled scene k (p.layer cancelled k s).outcome (p.layer cancelled k s).scene := by
  -- the cases are those of `layer`, and each is a constructor of `Gives`
  induction k, s using layer_induction p cancelled with
  | cut k s cut =>
    rw [layer_of_cut cut]
    exact .cancelled h cut
  | last k s alive hk =>
    obtain rfl := Nat.le_antisymm hk h.le_length
    rw [layer_of_last alive hk]
    exact .terminal h alive
  | stop k s stage o s' alive found stops =>
    rw [layer_of_stop alive found stops]
    exact .stopped h alive found stops
  | pass k s stage s' leave alive found passes ih =>
    have inside := ih (.next h alive found passes)
    by_cases hanswer : (p.layer cancelled (k + 1) s').outcome.IsAnswer
    · obtain ⟨a, answers⟩ := hanswer
      rw [layer_of_pass alive found passes answers]
      rw [answers] at inside
      exact .passed h alive found passes inside
    · rw [layer_of_break alive found passes hanswer]
      exact .broken h alive found passes inside hanswer

/-- `Gives` holds of nothing else. -/
theorem Gives.eq_layer {o : Outcome} {s' : Scene σ} (h : p.Gives cancelled scene k o s') :
    ∃ s, p.Calls cancelled scene k s ∧ o = (p.layer cancelled k s).outcome ∧
      s' = (p.layer cancelled k s).scene := by
  induction h with
  | cancelled called cut => exact ⟨_, called, by rw [layer_of_cut cut], by rw [layer_of_cut cut]⟩
  | terminal called alive =>
    exact ⟨_, called, by rw [layer_of_last alive (Nat.le_refl _)],
      by rw [layer_of_last alive (Nat.le_refl _)]⟩
  | stopped called alive found stops =>
    exact ⟨_, called, by rw [layer_of_stop alive found stops],
      by rw [layer_of_stop alive found stops]⟩
  | passed called alive found passes inside ih =>
    obtain ⟨s₁, called₁, answers, rfl⟩ := ih
    -- the next layer is called in one way only
    obtain rfl := called₁.eq (.next called alive found passes)
    exact ⟨_, called, by rw [layer_of_pass alive found passes answers.symm],
      by rw [layer_of_pass alive found passes answers.symm]⟩
  | broken called alive found passes inside breaks ih =>
    obtain ⟨s₁, called₁, rfl, rfl⟩ := ih
    obtain rfl := called₁.eq (.next called alive found passes)
    exact ⟨_, called, by rw [layer_of_break alive found passes breaks],
      by rw [layer_of_break alive found passes breaks]⟩

/-! ### What happens in a run -/

/-- A request that `Comes` to a layer comes to all layers around it. -/
theorem Comes.of_inner {j : Nat} (h : p.Comes cancelled scene j) (hk : k < j) :
    p.Comes cancelled scene k := by
  -- what is called at a layer was passed on by the one outside
  obtain ⟨-, s₁, called⟩ := h
  obtain ⟨s', called'⟩ := called.inward hk
  obtain ⟨s₀, -, -, called₀, alive, -⟩ := called'.outside
  exact ⟨alive, s₀, called₀⟩

/-- A request `Comes` to no layer from the one on by which it is cancelled. -/
theorem Comes.lt_of_cut {j : Nat} (h : p.Comes cancelled scene j)
    (cut : cancelled k = true) : j < k := by
  refine Nat.lt_of_not_le fun hk => ?_
  have hcomes : p.Comes cancelled scene k := by
    obtain hk | rfl := Nat.lt_or_eq_of_le hk
    · exact h.of_inner hk
    · exact h
  exact Bool.false_ne_true (hcomes.1.symm.trans cut)

/-- A request `Comes` to no layer inside a stage that stops it. -/
theorem Comes.le_of_stop {j : Nat} {o : Outcome} (h : p.Comes cancelled scene j)
    (called : p.Calls cancelled scene k s) (found : p.stages[k]? = some stage)
    (stops : stage.enter s.tick = .stop o s') : j ≤ k := by
  refine Nat.le_of_not_lt fun hj => ?_
  obtain ⟨-, s₁, called₁⟩ := h
  obtain ⟨s₂, called₂⟩ := called₁.inward hj
  obtain ⟨s₀, stage₀, leave, called₀, -, found₀, passes⟩ := called₂.outside
  obtain rfl := called.eq called₀
  obtain rfl := Option.some_inj.mp (found.symm.trans found₀)
  cases stops.symm.trans passes

/-- An exit is no entry. -/
theorem entered_notMem_exits (k : Nat) (name : String) (o : Outcome) (j : Nat) :
    .entered j ∉ LayerEvent.exits k name o := by
  cases o with
  | answered a => simp [LayerEvent.exits]
  | crashed => exact List.not_mem_nil
  | stalled => exact List.not_mem_nil

/-- An exit is not of the terminal layer. -/
theorem terminal_notMem_exits (k : Nat) (name : String) (o : Outcome) :
    .terminal ∉ LayerEvent.exits k name o := by
  cases o with
  | answered a => simp [LayerEvent.exits]
  | crashed => exact List.not_mem_nil
  | stalled => exact List.not_mem_nil

/-- The exit of a stage tells its place, its name and its answer. -/
theorem left_mem_exits {k j : Nat} {name stage : String} {o : Outcome} {ok : Bool} :
    .left j stage ok ∈ LayerEvent.exits k name o ↔ j = k ∧ stage = name ∧ ∃ a, o = .answered a ∧
      ok = a.isOk := by
  cases o with
  | answered a => simp [LayerEvent.exits]
  | crashed => simp [LayerEvent.exits]
  | stalled => simp [LayerEvent.exits]

/-- The stages that are entered in a `layer` are those that the request `Comes` to. -/
theorem entered_mem_layer (h : p.Calls cancelled scene k s) (j : Nat) :
    .entered j ∈ (p.layer cancelled k s).events ↔ k ≤ j ∧ j < p.stages.length ∧
      p.Comes cancelled scene j := by
  induction k, s using layer_induction p cancelled with
  | cut k s cut =>
    rw [layer_of_cut cut]
    exact ⟨fun hmem => (List.not_mem_nil hmem).elim, fun ⟨hk, _, hcomes⟩ =>
      absurd (hcomes.lt_of_cut cut) (Nat.not_lt.mpr hk)⟩
  | last k s alive hk =>
    rw [layer_of_last alive hk]
    exact ⟨fun hmem => by simp at hmem, fun ⟨hj, hlt, _⟩ => by omega⟩
  -- the layers further in are not entered, and the request does not come to them
  | stop k s stage o s' alive found stops =>
    rw [layer_of_stop alive found stops, List.mem_cons, or_iff_left (entered_notMem_exits _ _ _ _)]
    constructor
    · rintro ⟨⟩
      exact ⟨Nat.le_refl _, (List.getElem?_eq_some_iff.mp found).1, alive, s, h⟩
    · rintro ⟨hk, -, hcomes⟩
      rw [Nat.le_antisymm hk (hcomes.le_of_stop h found stops)]
  | pass k s stage s' leave alive found passes ih =>
    rw [events_of_pass alive found passes, List.mem_append,
      or_iff_left (entered_notMem_exits _ _ _ _), List.mem_cons, ih (.next h alive found passes)]
    constructor
    · rintro (heq | ⟨hk, hj⟩)
      · obtain rfl := LayerEvent.entered.inj heq
        exact ⟨Nat.le_refl _, (List.getElem?_eq_some_iff.mp found).1, alive, s, h⟩
      · exact ⟨Nat.le_of_succ_le hk, hj⟩
    · rintro ⟨hk, hj⟩
      obtain hk | rfl := Nat.lt_or_eq_of_le hk
      · exact .inr ⟨hk, hj⟩
      · exact .inl rfl

/-- The terminal layer works in a `layer` if the request `Comes` to it. -/
theorem terminal_mem_layer (h : p.Calls cancelled scene k s) :
    .terminal ∈ (p.layer cancelled k s).events ↔ p.Comes cancelled scene p.stages.length := by
  induction k, s using layer_induction p cancelled with
  | cut k s cut =>
    rw [layer_of_cut cut]
    exact ⟨fun hmem => (List.not_mem_nil hmem).elim, fun hcomes =>
      absurd (hcomes.lt_of_cut cut) (Nat.not_lt.mpr h.le_length)⟩
  | last k s alive hk =>
    obtain rfl := Nat.le_antisymm hk h.le_length
    rw [layer_of_last alive hk]
    exact ⟨fun _ => ⟨alive, s, h⟩, fun _ => List.mem_cons_self⟩
  -- a stage that answers keeps the request from the innermost layer
  | stop k s stage o s' alive found stops =>
    rw [layer_of_stop alive found stops]
    refine ⟨fun hmem => ?_, fun hcomes => ?_⟩
    · obtain hmem | hmem := List.mem_cons.mp hmem
      · cases hmem
      · exact absurd hmem (terminal_notMem_exits _ _ _)
    · have := (List.getElem?_eq_some_iff.mp found).1
      have := hcomes.le_of_stop h found stops
      omega
  | pass k s stage s' leave alive found passes ih =>
    rw [events_of_pass alive found passes, List.mem_append,
      or_iff_left (terminal_notMem_exits _ _ _), List.mem_cons, ih (.next h alive found passes)]
    exact or_iff_right (by simp)

/-- A stage `LeavesAs` its `layer` answers. -/
theorem leavesAs_iff (h : p.Calls cancelled scene k s) (found : p.stages[k]? = some stage)
    (name : String) (ok : Bool) :
    p.LeavesAs cancelled scene k name ok ↔
      cancelled k = false ∧ name = stage.name ∧ ∃ a, (p.layer cancelled k s).outcome = .answered a ∧
      ok = a.isOk := by
  constructor
  · rintro ⟨⟨alive, -⟩, stage', a, s₁, found', gives, hname, hok⟩
    -- what the layer gives is what running it gives
    obtain ⟨s₀, called, ho, -⟩ := gives.eq_layer
    obtain rfl := h.eq called
    obtain rfl := Option.some_inj.mp (found.symm.trans found')
    exact ⟨alive, hname, a, ho.symm, hok⟩
  · rintro ⟨alive, hname, a, ho, hok⟩
    exact ⟨⟨alive, s, h⟩, stage, a, _, found, ho ▸ gives_layer h, hname, hok⟩

/-- The stages that leave in a `layer` are those that answer, each as it `LeavesAs`. -/
theorem left_mem_layer (h : p.Calls cancelled scene k s) {j : Nat} {name : String} {ok : Bool} :
    .left j name ok ∈ (p.layer cancelled k s).events ↔ k ≤ j ∧
      p.LeavesAs cancelled scene j name ok := by
  induction k, s using layer_induction p cancelled with
  | cut k s cut =>
    rw [layer_of_cut cut]
    exact ⟨fun hmem => (List.not_mem_nil hmem).elim, fun ⟨hk, hcomes, _⟩ =>
      absurd (hcomes.lt_of_cut cut) (Nat.not_lt.mpr hk)⟩
  | last k s alive hk =>
    rw [layer_of_last alive hk]
    refine ⟨fun hmem => by simp at hmem, ?_⟩
    rintro ⟨hj, -, stage, a, s', found, -⟩
    have := (List.getElem?_eq_some_iff.mp found).1
    omega
  | stop k s stage o s' alive found stops =>
    -- how the stage itself is left; by the induction those further in are left as they should be
    have hown := leavesAs_iff h found name ok
    rw [layer_of_stop alive found stops] at hown
    rw [layer_of_stop alive found stops, List.mem_cons, or_iff_right (by simp), left_mem_exits]
    constructor
    · rintro ⟨rfl, hname⟩
      exact ⟨Nat.le_refl _, hown.mpr ⟨alive, hname⟩⟩
    · rintro ⟨hk, hleaves⟩
      obtain rfl := Nat.le_antisymm hk (hleaves.1.le_of_stop h found stops)
      exact ⟨rfl, (hown.mp hleaves).2⟩
  | pass k s stage s' leave alive found passes ih =>
    have hown := leavesAs_iff h found name ok
    rw [events_of_pass alive found passes, List.cons_append, List.mem_cons, or_iff_right (by simp),
      List.mem_append, left_mem_exits, ih (.next h alive found passes)]
    constructor
    · rintro (⟨hk, hleaves⟩ | ⟨rfl, hname⟩)
      · exact ⟨Nat.le_of_succ_le hk, hleaves⟩
      · exact ⟨Nat.le_refl _, hown.mpr ⟨alive, hname⟩⟩
    · rintro ⟨hk, hleaves⟩
      obtain hk | rfl := Nat.lt_or_eq_of_le hk
      · exact .inl ⟨hk, hleaves⟩
      · exact .inr ⟨rfl, (hown.mp hleaves).2⟩

/-- The events of a `layer` are `Nested`, and all stages that were entered leave if the outermost
one answers. -/
theorem nested_layer (k : Nat) (s : Scene σ) :
    ∃ depth out, LayerEvent.Nested k depth out (p.layer cancelled k s).events ∧
      ((p.layer cancelled k s).outcome.IsAnswer → out = k) := by
  induction k, s using layer_induction p cancelled with
  | cut k s cut =>
    rw [layer_of_cut cut]
    exact ⟨0, k, .nil k, fun _ => rfl⟩
  | last k s alive hk =>
    rw [layer_of_last alive hk]
    exact ⟨0, k, .terminal k, fun _ => rfl⟩
  | stop k s stage o s' alive found stops =>
    rw [layer_of_stop alive found stops]
    cases o with
    | answered a =>
      exact ⟨1, k, (LayerEvent.Nested.nil (k + 1)).leave stage.name a.isOk, fun _ => rfl⟩
    -- a stage that does not answer never leaves
    | crashed => exact ⟨1, k + 1, (LayerEvent.Nested.nil (k + 1)).enter, nofun⟩
    | stalled => exact ⟨1, k + 1, (LayerEvent.Nested.nil (k + 1)).enter, nofun⟩
  | pass k s stage s' leave alive found passes ih =>
    obtain ⟨depth, out, hnested, hout⟩ := ih
    by_cases hanswer : (p.layer cancelled (k + 1) s').outcome.IsAnswer
    · -- all inside has left, so this stage may leave around it
      obtain rfl := hout hanswer
      obtain ⟨a, answers⟩ := hanswer
      rw [events_of_pass alive found passes]
      cases (p.layer cancelled k s).outcome with
      | answered a' => exact ⟨depth + 1, k, hnested.leave stage.name a'.isOk, fun _ => rfl⟩
      | crashed => exact ⟨depth + 1, k + 1, by simpa [LayerEvent.exits] using hnested.enter, nofun⟩
      | stalled => exact ⟨depth + 1, k + 1, by simpa [LayerEvent.exits] using hnested.enter, nofun⟩
    · rw [layer_of_break alive found passes hanswer]
      exact ⟨depth + 1, out, hnested.enter, fun h => absurd h hanswer⟩

/-! ### A whole run -/

/-- What a run through a pipeline comes to. -/
structure IsOnion (p : Pipeline σ) (cancelled : Cancellation) (scene : Scene σ)
    (r : Passage σ) : Prop where
  /-- Stages are entered from the outermost to the innermost, without a gap and none twice; then the
  terminal layer may work, once; then stages leave in the opposite order. If the pipeline answers,
  all stages leave that were entered. -/
  nested : ∃ depth out, LayerEvent.Nested 0 depth out r.events ∧
    (r.outcome.IsAnswer → out = 0 ∧ ∀ k, .entered k ∈ r.events →
      ∃ name ok, .left k name ok ∈ r.events)
  /-- A stage is entered if and only if the request is handed to it before it is cancelled. -/
  entered_iff : ∀ k, .entered k ∈ r.events ↔ k < p.stages.length ∧ p.Comes cancelled scene k
  terminal_iff : .terminal ∈ r.events ↔ p.Comes cancelled scene p.stages.length
  /-- What the run gives back is what the outermost layer does. -/
  gives_iff : ∀ o s, p.Gives cancelled scene 0 o s ↔ o = r.outcome ∧ s = r.scene
  /-- A stage that hands on a request that is cancelled by then gets the failure of that back, and
  nothing works inside. -/
  cut : ∀ k s, p.Calls cancelled scene k s → cancelled k = true →
    (∀ o s', p.Gives cancelled scene k o s' ↔ o = .failure .cancelled ∧ s' = s.tick) ∧
      .terminal ∉ r.events ∧ ∀ j, .entered j ∈ r.events → j < k
  /-- A stage leaves under its own name, and as its own answer is. -/
  left_iff : ∀ k name ok, .left k name ok ∈ r.events ↔ p.LeavesAs cancelled scene k name ok

/-- `Gives` holds of what `layer` comes to, and of nothing else. -/
theorem gives_iff (h : p.Calls cancelled scene k s) {o : Outcome} {s' : Scene σ} :
    p.Gives cancelled scene k o s' ↔ o = (p.layer cancelled k s).outcome ∧
      s' = (p.layer cancelled k s).scene := by
  constructor
  · intro gives
    obtain ⟨s₀, called, hgives⟩ := gives.eq_layer
    obtain rfl := h.eq called
    exact hgives
  · rintro ⟨rfl, rfl⟩
    exact gives_layer h

/-- What `IsOnion` states holds of `run`. -/
theorem isOnion_run (p : Pipeline σ) (cancelled : Cancellation) (scene : Scene σ) :
    p.IsOnion cancelled scene (p.run cancelled scene) := by
  have h : p.Calls cancelled scene 0 scene := .outermost
  have hrun : p.run cancelled scene = p.layer cancelled 0 scene := by
    rw [run, layer, List.drop_zero]
  rw [hrun]
  refine ⟨?nested, fun k => ?entered, terminal_mem_layer h, fun o s => gives_iff h,
    fun k s called cut => ⟨?fails, ?shut, ?bounded⟩,
    fun k name ok => ?left⟩
  case nested =>
    -- if the outermost layer answers, none is left open
    obtain ⟨depth, out, hnested, hout⟩ := @nested_layer σ p cancelled 0 scene
    refine ⟨depth, out, hnested, fun hanswer => ⟨hout hanswer, fun k hk => ?_⟩⟩
    obtain rfl := hout hanswer
    exact hnested.exists_left hk
  case entered => rw [entered_mem_layer h, and_iff_right (Nat.zero_le k)]
  case fails =>
    intro o s'
    rw [gives_iff called, layer_of_cut cut]
  case shut =>
    rw [terminal_mem_layer h]
    exact fun hcomes => absurd (hcomes.lt_of_cut cut) (Nat.not_lt.mpr called.le_length)
  case bounded =>
    intro j hj
    obtain ⟨-, -, hcomes⟩ := (entered_mem_layer h j).mp hj
    exact hcomes.lt_of_cut cut
  case left => rw [left_mem_layer h, and_iff_right (Nat.zero_le k)]

/-- `IsOnion` holds of each run of a pipeline, and `recordAll` adds one sample for each stage that
leaves. It is found under the labels of the stage, if those in use are `ToldApart`. -/
theorem isOnion_run_timed (p : Pipeline σ) (cancelled : Cancellation) (scene : Scene σ)
    (m : Metrics) :
    let r := p.run cancelled scene
    let m' := LayerEvent.recordAll m r.events
    p.IsOnion cancelled scene r ∧ m'.allSamples = m.allSamples +
      (r.events.filterMap LayerEvent.exit?).length ∧
      (StageLabels.ToldApart (r.events.filterMap LayerEvent.labels? ++ m.labels) →
        (∀ k name ok, p.LeavesAs cancelled scene k name ok →
          m'.samples (.ofStage k name ok) = m.samples (.ofStage k name ok) + 1) ∧
        ∀ l, (∀ k name ok, p.LeavesAs cancelled scene k name ok → l ≠ .ofStage k name ok) →
        m'.samples l = m.samples l) := by
  intro r m'
  have honion : p.IsOnion cancelled scene r := isOnion_run p cancelled scene
  refine ⟨honion, LayerEvent.allSamples_recordAll m r.events, fun hapart =>
    ⟨fun k name ok hleaves => ?own, fun l hl => ?other⟩⟩
  case own =>
    -- no stage leaves twice, so its labels come up once
    obtain ⟨depth, out, hnested, -⟩ := honion.nested
    have hmem : StageLabels.ofStage k name ok ∈ r.events.filterMap LayerEvent.labels? :=
      List.mem_filterMap.mpr ⟨_, (honion.left_iff k name ok).mpr hleaves, rfl⟩
    rw [LayerEvent.samples_recordAll hapart, (LayerEvent.nodup_labels hnested.nodup_exits).count,
      if_pos hmem]
  case other =>
    have hmem : l ∉ r.events.filterMap LayerEvent.labels? := by
      intro hmem
      obtain ⟨e, he, hlabels⟩ := List.mem_filterMap.mp hmem
      cases e with
      | left k name ok =>
        cases hlabels
        exact hl k name ok ((honion.left_iff k name ok).mp he) rfl
      | entered k => cases hlabels
      | terminal => cases hlabels
    rw [LayerEvent.samples_recordAll hapart, List.count_eq_zero_of_not_mem hmem, Nat.add_zero]

/-- A pipeline of stages that pass everything on, around a layer that always answers. -/
def passing (names : List String) : Pipeline Unit :=
  ⟨names.map fun name => ⟨name, fun s => .pass s fun a s => (.answered a, s)⟩,
    fun s => (.response [], s)⟩

/-- A scene that nothing has happened in. -/
def firstScene : Scene Unit := ⟨default, .connected none, .empty 0, 0, 0, [], ()⟩

/-- Of two stages, the inner one leaves with one sample under its own labels. -/
theorem isOnion_run_timed_twoStages :
    let r := (passing ["defaults", "nohint"]).run (fun _ => false) firstScene
    StageLabels.ToldApart (r.events.filterMap LayerEvent.labels? ++ Metrics.empty.labels) ∧
      (LayerEvent.recordAll .empty r.events).samples (.ofStage 1 "nohint" true) = 1 := by
  intro r
  have hapart : StageLabels.ToldApart
      (r.events.filterMap LayerEvent.labels? ++ Metrics.empty.labels) := by decide +kernel
  obtain ⟨honion, -, hsamples⟩ :=
    isOnion_run_timed (passing ["defaults", "nohint"]) (fun _ => false) firstScene .empty
  have hleft : LayerEvent.left 1 "nohint" true ∈ r.events := by decide +kernel
  exact ⟨hapart, (hsamples hapart).1 1 "nohint" true ((honion.left_iff 1 "nohint" true).mp hleft)⟩

/-- Labels run together: the stage `a` at place 11 and the stage `1a` at place 1 are counted as one,
under the labels that came first. -/
theorem samples_of_alike :
    let names := ["s0", "1a", "s2", "s3", "s4", "s5", "s6", "s7", "s8", "s9", "s10", "a"]
    let r := (passing names).run (fun _ => false) firstScene
    .left 1 "1a" true ∈ r.events ∧ (LayerEvent.recordAll .empty r.events).samples
      (.ofStage 1 "1a" true) = 0 ∧
      (LayerEvent.recordAll .empty r.events).samples (.ofStage 11 "a" true) = 2 := by
  decide +kernel

end Pipeline

end DocGateway
