import Mathlib.Data.List.Induction
import RideQuery.Value

/-!
# Dictionaries

Entries written under keys that are all different stand in a dictionary as they were
written.  Whatever the keys, a dictionary holds what was last written under a text.
-/

namespace RideQuery.Value

/-- A key that no entry has goes to the end. -/
theorem insert_of_fresh {entries : Dict} {key value : Value}
    (fresh : ∀ entry ∈ entries, sameKey entry.1 key = false) :
    insert entries key value = entries ++ [(key, value)] := by
  induction entries with
  | nil => rfl
  | cons entry entries inductionHypothesis =>
      obtain ⟨other, rest⟩ := List.forall_mem_cons.mp fresh
      simp [insert, other, inductionHypothesis rest]

/-- Entries whose keys are all different are kept as they are. -/
theorem ofEntries_of_pairwise {entries : Dict}
    (distinct : entries.Pairwise fun entry next => sameKey entry.1 next.1 = false) :
    ofEntries entries = entries := by
  suffices general : ∀ known : Dict,
      (known ++ entries).Pairwise (fun entry next => sameKey entry.1 next.1 = false) →
        entries.foldl (fun dict entry => insert dict entry.1 entry.2) known =
          known ++ entries from general [] distinct
  clear distinct
  induction entries with
  | nil => simp
  | cons entry entries inductionHypothesis =>
      intro known distinct
      have fresh : ∀ earlier ∈ known, sameKey earlier.1 entry.1 = false :=
        fun earlier member =>
          (List.pairwise_append.mp distinct).2.2 earlier member entry List.mem_cons_self
      have moved : (known ++ [entry] ++ entries).Pairwise
          fun earlier next => sameKey earlier.1 next.1 = false := by
        simpa using distinct
      rw [List.foldl_cons, insert_of_fresh fresh, inductionHypothesis _ moved]
      simp

/-- Text keys are the same exactly if their texts are. -/
theorem sameKey_text (s t : String) : sameKey (.text s) (.text t) = (s == t) := by
  simp [sameKey]

theorem sameKey_text_iff {key : Value} {s : String} :
    sameKey key (.text s) = true ↔ key = .text s := by
  cases key with
  | float x => cases x <;> simp [sameKey, exactNumber?]
  | decimal d => cases d <;> simp [sameKey, exactNumber?]
  | _ => simp [sameKey, exactNumber?]

/-- A text key is the same as no key but itself. -/
theorem eq_text_of_sameKey {key : Value} {s : String} (same : sameKey (.text s) key = true) :
    key = .text s := by
  cases key with
  | text t =>
      rw [sameKey_text, beq_iff_eq] at same
      rw [same]
  | float x => cases x <;> simp [sameKey, exactNumber?] at same
  | decimal d => cases d <;> simp [sameKey, exactNumber?] at same
  | _ => simp [sameKey, exactNumber?] at same

/-! ## Entries that stay -/

/-- An entry that is written is there under its key, unless another key is the same. -/
theorem mem_insert_self {entries : Dict} {key value : Value}
    (known : ∀ entry ∈ entries, sameKey entry.1 key = true → entry.1 = key) :
    (key, value) ∈ insert entries key value := by
  induction entries with
  | nil => exact List.mem_singleton_self _
  | cons entry entries inductionHypothesis =>
      obtain ⟨first, others⟩ := List.forall_mem_cons.mp known
      obtain ⟨other, kept⟩ := entry
      rw [insert]
      split
      · rename_i same
        obtain rfl : other = key := first same
        exact List.mem_cons_self
      · exact List.mem_cons_of_mem _ (inductionHypothesis others)

theorem mem_insert_of_mem {entries : Dict} {entry : Value × Value} {key : Value} (value : Value)
    (member : entry ∈ entries) (apart : sameKey entry.1 key = false) :
    entry ∈ insert entries key value := by
  induction entries with
  | nil => contradiction
  | cons first entries inductionHypothesis =>
      obtain ⟨other, kept⟩ := first
      rw [insert]
      rcases List.mem_cons.mp member with rfl | behind
      · rw [apart]
        exact List.mem_cons_self
      · split
        · exact List.mem_cons_of_mem _ behind
        · exact List.mem_cons_of_mem _ (inductionHypothesis behind)

/-- The keys after an entry is written are the ones before it and its own. -/
theorem key_of_mem_insert {entries : Dict} {key value : Value} {entry : Value × Value}
    (member : entry ∈ insert entries key value) :
    entry.1 = key ∨ ∃ earlier ∈ entries, earlier.1 = entry.1 := by
  induction entries with
  | nil =>
      rw [insert, List.mem_singleton] at member
      rw [member]
      exact .inl rfl
  | cons first entries inductionHypothesis =>
      obtain ⟨other, kept⟩ := first
      rw [insert] at member
      split at member
      · rcases List.mem_cons.mp member with rfl | behind
        · exact .inr ⟨_, List.mem_cons_self, rfl⟩
        · exact .inr ⟨entry, List.mem_cons_of_mem _ behind, rfl⟩
      · rcases List.mem_cons.mp member with rfl | behind
        · exact .inr ⟨_, List.mem_cons_self, rfl⟩
        · refine (inductionHypothesis behind).imp_right ?_
          rintro ⟨earlier, inside, same⟩
          exact ⟨earlier, List.mem_cons_of_mem _ inside, same⟩

/--
Entries written under different keys are all there in the end, as is whatever was there before
under a key apart from theirs.  The keys from before must be apart from them or texts, which no
other key replaces.
-/
theorem mem_foldl_insert {entries known : Dict}
    (distinct : entries.Pairwise fun entry next => sameKey entry.1 next.1 = false)
    (apart : ∀ earlier ∈ known, (∃ s, earlier.1 = .text s) ∨
      ∀ entry ∈ entries, sameKey earlier.1 entry.1 = false) {entry : Value × Value}
    (member : entry ∈ entries ∨
      (entry ∈ known ∧ ∀ next ∈ entries, sameKey entry.1 next.1 = false)) :
    entry ∈ entries.foldl (fun dict entry => insert dict entry.1 entry.2) known := by
  induction entries generalizing known with
  | nil =>
      rcases member with none | ⟨inside, _⟩
      · contradiction
      · exact inside
  | cons first rest inductionHypothesis =>
      obtain ⟨firstApart, restDistinct⟩ := List.pairwise_cons.mp distinct
      rw [List.foldl_cons]
      refine inductionHypothesis restDistinct ?_ ?_
      · intro earlier inside
        rcases key_of_mem_insert inside with own | ⟨before, insideBefore, same⟩
        · rw [own]
          exact .inr firstApart
        · rw [← same]
          exact (apart before insideBefore).imp_right fun all next behind =>
            all next (List.mem_cons_of_mem _ behind)
      · rcases member with inside | ⟨inside, all⟩
        · rcases List.mem_cons.mp inside with rfl | behind
          · refine .inr ⟨mem_insert_self fun earlier before same => ?_, firstApart⟩
            rcases apart earlier before with ⟨s, named⟩ | never
            · rw [named] at same ⊢
              exact (eq_text_of_sameKey same).symm
            · rw [never entry List.mem_cons_self] at same
              contradiction
          · exact .inl behind
        · obtain ⟨first, others⟩ := List.forall_mem_cons.mp all
          exact .inr ⟨mem_insert_of_mem _ inside first, others⟩

/-! ## Looking up -/

/-- An entry is found under its own text, and changes nothing under any other. -/
theorem lookup?_insert (entries : Dict) (written key : String) (value : Value) :
    lookup? (insert entries (.text written) value) key =
      if written = key then some value else lookup? entries key := by
  induction entries with
  | nil =>
      by_cases own : written = key <;> simp [insert, lookup?, sameKey_text, own]
  | cons entry entries inductionHypothesis =>
      obtain ⟨other, kept⟩ := entry
      rw [insert]
      split
      · rename_i same
        obtain rfl := sameKey_text_iff.mp same
        by_cases own : written = key <;> simp [lookup?, sameKey_text, own]
      · rename_i different
        rw [lookup?] at inductionHypothesis ⊢
        rw [lookup?, List.find?_cons, List.find?_cons]
        by_cases found : sameKey other (.text key) = true
        · have apart : written ≠ key := by
            rintro rfl
            exact different found
          simp [found, apart]
        · rw [Bool.not_eq_true] at found
          simp only [found, inductionHypothesis, lookup?]

/-- The last of some entries that were written under a text is the one that is found. -/
theorem lookup?_ofEntries (entries : List (String × Value)) (key : String) :
    lookup? (ofEntries (entries.map fun entry => (.text entry.1, entry.2))) key =
      (entries.reverse.find? fun entry => entry.1 == key).map Prod.snd := by
  induction entries using List.reverseRecOn with
  | nil => rfl
  | append_singleton entries entry inductionHypothesis =>
      rw [ofEntries] at inductionHypothesis ⊢
      rw [List.map_append, List.foldl_append, List.reverse_append]
      simp only [List.map_cons, List.map_nil, List.foldl_cons, List.foldl_nil, lookup?_insert,
        List.reverse_singleton, List.singleton_append, List.find?_cons]
      rw [inductionHypothesis]
      by_cases own : entry.1 = key
      · rw [if_pos own, beq_iff_eq.mpr own]
        rfl
      · rw [if_neg own, beq_eq_false_iff_ne.mpr own]

/-! ## Keys -/

theorem eraseDups_append_singleton {α : Type} [DecidableEq α] (list : List α) (a : α) :
    (list ++ [a]).eraseDups = list.eraseDups ++ if a ∈ list then [] else [a] := by
  have single : [a].eraseDups = [a] := by
    rw [List.eraseDups_cons]
    rfl
  rw [List.eraseDups_append, List.removeAll]
  by_cases known : a ∈ list
  · simp [known]
  · simp [known, single]

theorem nodup_eraseDups {α : Type} [DecidableEq α] (list : List α) : list.eraseDups.Nodup := by
  induction list using List.reverseRecOn with
  | nil => exact List.nodup_nil
  | append_singleton list a inductionHypothesis =>
      rw [eraseDups_append_singleton]
      split
      · rwa [List.append_nil]
      · rename_i fresh
        refine List.nodup_append.mpr ⟨inductionHypothesis, by simp, ?_⟩
        rintro known member _ single rfl
        obtain rfl := List.mem_singleton.mp single
        exact fresh (List.mem_eraseDups.mp member)

/-- Images under an injective function repeat exactly if what they are images of does. -/
theorem eraseDups_map {α β : Type} [DecidableEq α] [DecidableEq β] {image : α → β}
    (injective : Function.Injective image) (list : List α) :
    (list.map image).eraseDups = list.eraseDups.map image := by
  induction list using List.reverseRecOn with
  | nil => rfl
  | append_singleton list a inductionHypothesis =>
      have known : image a ∈ list.map image ↔ a ∈ list := by
        simp [injective.eq_iff]
      rw [List.map_append, List.map_singleton, eraseDups_append_singleton,
        eraseDups_append_singleton, inductionHypothesis, List.map_append]
      simp only [known]
      split <;> rfl

/-- Writing an entry adds its key behind the others, unless it is one of them. -/
theorem keys_insert {names : List String} {entries : Dict}
    (keys : entries.map Prod.fst = names.map .text) (name : String) (value : Value) :
    (insert entries (.text name) value).map Prod.fst =
      (names ++ if name ∈ names then [] else [name]).map .text := by
  induction entries generalizing names with
  | nil =>
      obtain rfl : names = [] := by simpa using keys.symm
      rfl
  | cons entry entries inductionHypothesis =>
      obtain ⟨key, kept⟩ := entry
      obtain ⟨first, names, rfl, same, others⟩ := List.map_eq_cons_iff.mp keys.symm
      dsimp only at same
      subst same
      rw [insert, sameKey_text]
      by_cases own : first = name
      · simp [own, others]
      · have apart : ¬name = first := Ne.symm own
        rw [beq_eq_false_iff_ne.mpr own, if_neg Bool.false_ne_true, List.map_cons,
          inductionHypothesis others.symm]
        simp [apart]

/-- A dictionary has each of the texts that it was written under once. -/
theorem keys_ofEntries (entries : List (String × Value)) :
    (ofEntries (entries.map fun entry => (.text entry.1, entry.2))).map Prod.fst =
      (entries.map Prod.fst).eraseDups.map .text := by
  induction entries using List.reverseRecOn with
  | nil => rfl
  | append_singleton entries entry inductionHypothesis =>
      have step := keys_insert inductionHypothesis entry.1 entry.2
      simp only [List.mem_eraseDups] at step
      rw [ofEntries] at step ⊢
      rw [List.map_append, List.foldl_append, List.map_append, List.map_singleton,
        List.map_singleton, List.foldl_cons, List.foldl_nil, step, eraseDups_append_singleton]

end RideQuery.Value
