import Mathlib.Data.Finset.Card
import RideQuery.Proofs.Database.Engines

/-!
# Which engines are the same

Requests are answered with one engine exactly if they agree on all that a key tells.  What
comes of opening engines is left open here, up to one thing: an engine that is opened is none
of those that are there already.  Then every engine that was handed out is kept, under the one
key of the requests that it answered, and nothing else is, so a request that fails leaves no
trace.
-/

namespace RideQuery.Database

variable {Engine : Type}

namespace History

theorem mem_handedOut {history : History Engine} {engine : Engine} :
    engine ∈ history.handedOut ↔ ∃ options, (options, .ok engine) ∈ history.replies := by
  rw [handedOut, List.mem_filterMap]
  constructor
  · rintro ⟨⟨options, reply⟩, member, answered⟩
    cases reply with
    | error failure => contradiction
    | ok other =>
        obtain rfl : other = engine := Option.some.inj answered
        exact ⟨options, member⟩
  · rintro ⟨options, member⟩
    exact ⟨_, member, rfl⟩

/-! ## What is kept -/

/-- Histories that keep every engine that was handed out once, under its key, and nothing else. -/
structure IsFaithful (history : History Engine) : Prop where
  keys : (history.kept.map Prod.fst).Nodup
  engines : (history.kept.map Prod.snd).Nodup
  entries : ∀ key engine, (key, engine) ∈ history.kept ↔
    ∃ options, options.key = .ok key ∧ (options, .ok engine) ∈ history.replies
  keyed : ∀ options engine, (options, .ok engine) ∈ history.replies →
    ∃ key, options.key = .ok key

theorem isFaithful_nil : IsFaithful (ofCalls ([] : List (EngineCall Engine))) :=
  ⟨List.nodup_nil, List.nodup_nil, by simp [ofCalls], by simp [ofCalls]⟩

theorem IsFaithful.lookup_eq_some_iff {history : History Engine} (faithful : history.IsFaithful)
    {key : String} {engine : Engine} :
    history.kept.lookup key = some engine ↔ (key, engine) ∈ history.kept := by
  rw [List.lookup_eq_some_iff]
  constructor
  · rintro ⟨front, behind, same, _⟩
    simp [same]
  · intro member
    obtain ⟨front, behind, same⟩ := List.append_of_mem member
    refine ⟨front, behind, same, ?_⟩
    intro entry inside
    have distinct := faithful.keys
    rw [same, List.map_append, List.nodup_append] at distinct
    have apart := distinct.2.2 entry.1 (List.mem_map_of_mem inside) key (by simp)
    exact bne_iff_ne.mpr (Ne.symm apart)

theorem IsFaithful.not_mem_keys {history : History Engine} {key : String}
    (free : history.kept.lookup key = none) : key ∉ history.kept.map Prod.fst := by
  rw [List.lookup_eq_none_iff] at free
  intro member
  obtain ⟨entry, inside, rfl⟩ := List.mem_map.mp member
  simpa using free entry inside

/-! ## One more call -/

section Replies

variable {history : History Engine} {options : EngineOptions} {key : String} {engine : Engine}

/-- An engine that is kept may be handed out again. -/
theorem IsFaithful.again (faithful : history.IsFaithful) (named : options.key = .ok key)
    (kept : (key, engine) ∈ history.kept) :
    IsFaithful { history with replies := history.replies ++ [(options, .ok engine)] } := by
  refine ⟨faithful.keys, faithful.engines, ?_, ?_⟩
  · intro other handed
    simp only [List.mem_append, List.mem_singleton, Prod.mk.injEq, Except.ok.injEq]
    rw [faithful.entries]
    constructor
    · rintro ⟨earlier, own, member⟩
      exact ⟨earlier, own, .inl member⟩
    · rintro ⟨earlier, own, member | ⟨rfl, rfl⟩⟩
      · exact ⟨earlier, own, member⟩
      · obtain rfl := Except.ok.inj (named.symm.trans own)
        exact (faithful.entries _ _).mp kept
  · intro earlier handed member
    rcases List.mem_append.mp member with before | last
    · exact faithful.keyed earlier handed before
    · obtain ⟨rfl, _⟩ := Prod.mk.inj (List.mem_singleton.mp last)
      exact ⟨key, named⟩

/-- A new engine may be handed out if it is kept under a new key. -/
theorem IsFaithful.opened (faithful : history.IsFaithful) (named : options.key = .ok key)
    (free : key ∉ history.kept.map Prod.fst) (fresh : engine ∉ history.kept.map Prod.snd) :
    IsFaithful
      { kept := history.kept ++ [(key, engine)]
        replies := history.replies ++ [(options, .ok engine)] } := by
  refine ⟨?_, ?_, ?_, ?_⟩
  · rw [List.map_append]
    exact faithful.keys.append (List.nodup_singleton key) (List.disjoint_singleton.mpr free)
  · rw [List.map_append]
    exact faithful.engines.append (List.nodup_singleton engine)
      (List.disjoint_singleton.mpr fresh)
  · intro other handed
    simp only [List.mem_append, List.mem_singleton, Prod.mk.injEq, Except.ok.injEq,
      faithful.entries]
    constructor
    · rintro (⟨earlier, own, member⟩ | ⟨rfl, rfl⟩)
      · exact ⟨earlier, own, .inl member⟩
      · exact ⟨options, named, .inr ⟨rfl, rfl⟩⟩
    · rintro ⟨earlier, own, member | ⟨rfl, rfl⟩⟩
      · exact .inl ⟨earlier, own, member⟩
      · exact .inr ⟨Except.ok.inj (own.symm.trans named), rfl⟩
  · intro earlier handed member
    rcases List.mem_append.mp member with before | last
    · exact faithful.keyed earlier handed before
    · obtain ⟨rfl, _⟩ := Prod.mk.inj (List.mem_singleton.mp last)
      exact ⟨key, named⟩

theorem IsFaithful.refused (faithful : history.IsFaithful) (failure : Failure) :
    IsFaithful { history with replies := history.replies ++ [(options, .error failure)] } := by
  refine ⟨faithful.keys, faithful.engines, ?_, ?_⟩
  · intro other handed
    simp [faithful.entries]
  · intro earlier handed member
    simp only [List.mem_append, List.mem_singleton, Prod.mk.injEq, reduceCtorEq, and_false,
      or_false] at member
    exact faithful.keyed earlier handed member

/-- One more call keeps a history faithful, unless it opens an engine that is there already. -/
theorem IsFaithful.step (faithful : history.IsFaithful) {call : EngineCall Engine}
    (fresh : ∀ engine, call.opening = .ok engine → engine ∉ history.kept.map Prod.snd) :
    (history.step call).IsFaithful := by
  rcases Kept.request_cases history.kept call.options call.opening with
    ⟨key, engine, _, named, found, step⟩ | ⟨key, engine, _, named, free, opened, step⟩ |
      ⟨failure, _, step⟩
  · rw [History.step, step]
    exact faithful.again named (faithful.lookup_eq_some_iff.mp found)
  · rw [History.step, step]
    exact faithful.opened named (not_mem_keys free) (fresh engine opened)
  · rw [History.step, step]
    exact faithful.refused failure

/-- A call succeeds if its options name a key that has an engine or gets one. -/
theorem IsFaithful.exists_ok_iff (faithful : history.IsFaithful) (call : EngineCall Engine) :
    (∃ engine, (history.kept.request call.options call.opening).1 = .ok engine) ↔
      call.options.address.isEmpty = false ∧ (∃ key, call.options.key = .ok key) ∧
        ((∃ engine, call.opening = .ok engine) ∨
          ∃ earlier engine, (earlier, .ok engine) ∈ history.replies ∧
            earlier.SharesEngine call.options) := by
  rcases Kept.request_cases history.kept call.options call.opening with
    ⟨key, engine, present, named, found, step⟩ | ⟨key, engine, present, named, _, opened, step⟩ |
      ⟨failure, closed, step⟩
  · obtain ⟨earlier, own, member⟩ :=
      (faithful.entries key engine).mp (faithful.lookup_eq_some_iff.mp found)
    rw [step]
    exact iff_of_true ⟨engine, rfl⟩ ⟨present, ⟨key, named⟩,
      .inr ⟨earlier, engine, member, (EngineOptions.key_eq_iff named).mp own⟩⟩
  · rw [step]
    exact iff_of_true ⟨engine, rfl⟩ ⟨present, ⟨key, named⟩, .inl ⟨engine, opened⟩⟩
  · rw [step]
    refine iff_of_false (by simp) ?_
    rintro ⟨present, ⟨key, named⟩, ⟨engine, opened⟩ | ⟨earlier, engine, member, shares⟩⟩
    · exact (closed present key named).2 engine opened
    · have own := (EngineOptions.key_eq_iff named).mpr shares
      have found := faithful.lookup_eq_some_iff.mpr
        ((faithful.entries key engine).mpr ⟨earlier, own, member⟩)
      rw [(closed present key named).1] at found
      contradiction

end Replies

/-! ## Sequences of calls -/

/-- Calls that never open an engine that is there already. -/
def OpensFresh (calls : List (EngineCall Engine)) : Prop :=
  ∀ earlier call, earlier ++ [call] <+: calls → ∀ engine, call.opening = .ok engine →
    engine ∉ (ofCalls earlier).kept.map Prod.snd

theorem OpensFresh.of_isPrefix {calls earlier : List (EngineCall Engine)} (fresh : OpensFresh calls)
    (before : earlier <+: calls) : OpensFresh earlier := by
  intro front call inside
  exact fresh front call (inside.trans before)

/-- After calls that open new engines only, a history is faithful. -/
theorem isFaithful_ofCalls {calls : List (EngineCall Engine)} (fresh : OpensFresh calls) :
    (ofCalls calls).IsFaithful := by
  induction calls using List.reverseRecOn with
  | nil => exact isFaithful_nil
  | append_singleton calls call inductionHypothesis =>
      rw [ofCalls_append]
      exact (inductionHypothesis (fresh.of_isPrefix (List.prefix_append _ _))).step
        (fresh calls call (List.prefix_refl _))

theorem IsFaithful.eq_iff {history : History Engine} (faithful : history.IsFaithful)
    {options other : EngineOptions} {engine otherEngine : Engine}
    (answered : (options, .ok engine) ∈ history.replies)
    (otherAnswered : (other, .ok otherEngine) ∈ history.replies) :
    engine = otherEngine ↔ options.SharesEngine other := by
  obtain ⟨key, named⟩ := faithful.keyed _ _ answered
  obtain ⟨otherKey, otherNamed⟩ := faithful.keyed _ _ otherAnswered
  have kept := (faithful.entries key engine).mpr ⟨options, named, answered⟩
  have otherKept := (faithful.entries otherKey otherEngine).mpr ⟨other, otherNamed, otherAnswered⟩
  rw [← EngineOptions.key_eq_iff otherNamed, named, Except.ok.injEq]
  constructor
  · rintro rfl
    exact congrArg Prod.fst (List.inj_on_of_nodup_map faithful.engines kept otherKept rfl)
  · rintro rfl
    exact congrArg Prod.snd (List.inj_on_of_nodup_map faithful.keys kept otherKept rfl)

theorem IsFaithful.length_kept [DecidableEq Engine] {history : History Engine}
    (faithful : history.IsFaithful) :
    history.kept.length = history.handedOut.toFinset.card := by
  have same : history.handedOut.toFinset = (history.kept.map Prod.snd).toFinset := by
    ext engine
    rw [List.mem_toFinset, List.mem_toFinset, mem_handedOut, List.mem_map]
    constructor
    · rintro ⟨options, member⟩
      obtain ⟨key, named⟩ := faithful.keyed options engine member
      exact ⟨(key, engine), (faithful.entries key engine).mpr ⟨options, named, member⟩, rfl⟩
    · rintro ⟨⟨key, other⟩, kept, rfl⟩
      obtain ⟨options, _, member⟩ := (faithful.entries key other).mp kept
      exact ⟨options, member⟩
  rw [same, List.toFinset_card_of_nodup faithful.engines, List.length_map]

/--
Two calls that succeed are answered with one engine exactly if they agree on all that a key
tells.  At any time as many engines are kept as different ones were handed out so far, and a
call that fails leaves them as they are.  It fails exactly if it has no address or no key, or
if no engine can be opened and none was handed out to a call that agrees with it.
-/
theorem sameEngine_iff_of_opensFresh [DecidableEq Engine] {calls : List (EngineCall Engine)}
    (fresh : OpensFresh calls) :
    (∀ options engine other otherEngine, (options, .ok engine) ∈ (ofCalls calls).replies →
      (other, .ok otherEngine) ∈ (ofCalls calls).replies →
        (engine = otherEngine ↔ options.SharesEngine other)) ∧
    ∀ earlier, earlier <+: calls →
      (ofCalls earlier).kept.length = (ofCalls earlier).handedOut.toFinset.card ∧
      ∀ call, earlier ++ [call] <+: calls →
        let reply := ((ofCalls earlier).kept.request call.options call.opening).1
        (ofCalls (earlier ++ [call])).replies =
          (ofCalls earlier).replies ++ [(call.options, reply)] ∧
        (∀ failure, reply = .error failure →
          (ofCalls (earlier ++ [call])).kept = (ofCalls earlier).kept) ∧
        ((∃ engine, reply = .ok engine) ↔
          call.options.address.isEmpty = false ∧ (∃ key, call.options.key = .ok key) ∧
            ((∃ engine, call.opening = .ok engine) ∨
              ∃ former engine, (former, .ok engine) ∈ (ofCalls earlier).replies ∧
                former.SharesEngine call.options)) := by
  constructor
  · intro options engine other otherEngine
    exact (isFaithful_ofCalls fresh).eq_iff
  · intro earlier before
    have faithful := isFaithful_ofCalls (fresh.of_isPrefix before)
    refine ⟨faithful.length_kept, fun call _ => ?_⟩
    intro reply
    rw [ofCalls_append]
    refine ⟨rfl, ?_, faithful.exists_ok_iff call⟩
    intro failure failed
    rcases Kept.request_cases (ofCalls earlier).kept call.options call.opening with
      ⟨_, _, _, _, _, step⟩ | ⟨_, _, _, _, _, _, step⟩ | ⟨_, _, step⟩
    · simp only [reply, step] at failed
      contradiction
    · simp only [reply, step] at failed
      contradiction
    · rw [History.step, step]

/-! ## Different engines -/

/-- Every engine that is kept was opened for one of the calls. -/
theorem exists_of_mem_kept {calls : List (EngineCall Engine)} {engine : Engine}
    (kept : engine ∈ (ofCalls calls).kept.map Prod.snd) :
    ∃ call ∈ calls, call.opening = .ok engine := by
  induction calls using List.reverseRecOn with
  | nil => contradiction
  | append_singleton calls call inductionHypothesis =>
      have before (former : engine ∈ (ofCalls calls).kept.map Prod.snd) :
          ∃ other ∈ calls ++ [call], other.opening = .ok engine := by
        obtain ⟨other, inside, opened⟩ := inductionHypothesis former
        exact ⟨other, List.mem_append_left _ inside, opened⟩
      rw [ofCalls_append, step] at kept
      rcases Kept.request_cases (ofCalls calls).kept call.options call.opening with
        ⟨_, _, _, _, _, step⟩ | ⟨_, new, _, _, _, opened, step⟩ | ⟨_, _, step⟩
      · rw [step] at kept
        exact before kept
      · rw [step, List.map_append] at kept
        rcases List.mem_append.mp kept with former | last
        · exact before former
        · obtain rfl := List.mem_singleton.mp last
          exact ⟨call, by simp, opened⟩
      · rw [step] at kept
        exact before kept

/-- Calls open new engines only if no two of them would open the same. -/
theorem opensFresh_of_nodup {calls : List (EngineCall Engine)}
    (distinct : (calls.filterMap fun call => call.opening.toOption).Nodup) : OpensFresh calls := by
  rintro earlier call ⟨after, rfl⟩ engine opened kept
  obtain ⟨other, inside, same⟩ := exists_of_mem_kept kept
  rw [List.append_assoc, List.filterMap_append, List.nodup_append] at distinct
  have former : engine ∈ earlier.filterMap fun call => call.opening.toOption :=
    List.mem_filterMap.mpr ⟨other, inside, by rw [same]; rfl⟩
  have own : engine ∈ ([call] ++ after).filterMap fun call => call.opening.toOption :=
    List.mem_filterMap.mpr ⟨call, by simp, by rw [opened]; rfl⟩
  exact distinct.2.2 engine former engine own rfl

/-- Calls for one address, tested and not, with two among them that are refused. -/
def sampleCalls : List (EngineCall ℕ) :=
  [{ options := { address := "sqlite://" }, opening := .ok 0 },
    { options := { address := "sqlite://", prePing := false, recycle := 60 }, opening := .ok 1 },
    { options := { address := "" }, opening := .ok 2 },
    { options := { address := "nowhere://" }, opening := .error (.badValue "nowhere") },
    { options := { address := "sqlite://", recycle := 60 }, opening := .ok 3 },
    { options := { address := "sqlite://", prePing := false, recycle := 5, echo := true }
      opening := .ok 4 }]

theorem sameEngine_iff_of_opensFresh_untested :
    let options : EngineOptions := { address := "sqlite://", prePing := false, recycle := 60 }
    let other : EngineOptions :=
      { address := "sqlite://", prePing := false, recycle := 5, echo := true }
    OpensFresh sampleCalls ∧ (options, .ok 1) ∈ (ofCalls sampleCalls).replies ∧
      (other, .ok 1) ∈ (ofCalls sampleCalls).replies ∧ options.SharesEngine other ∧
      (ofCalls sampleCalls).kept.length = 3 ∧
      (ofCalls sampleCalls).handedOut.toFinset.card = 3 := by
  intro options other
  have fresh : OpensFresh sampleCalls := opensFresh_of_nodup (by decide)
  have answered : (options, .ok 1) ∈ (ofCalls sampleCalls).replies := by decide +kernel
  have again : (other, .ok 1) ∈ (ofCalls sampleCalls).replies := by decide +kernel
  have three : (ofCalls sampleCalls).kept.length = 3 := by decide +kernel
  obtain ⟨same, counts⟩ := sameEngine_iff_of_opensFresh fresh
  exact ⟨fresh, answered, again, (same options 1 other 1 answered again).mp rfl, three,
    three ▸ (counts sampleCalls (List.prefix_refl _)).1.symm⟩

end History

end RideQuery.Database
