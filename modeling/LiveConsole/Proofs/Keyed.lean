import Mathlib.Data.List.Induction
import Mathlib.Data.List.Nodup

/-! Lists with one entry for each key. What is put in takes the place of the entry under its key, or
comes last. So the keys stand in the order in which they first came, and under each of them is what
was put in last. -/
namespace LiveConsole.Keyed

variable {α κ : Type} [DecidableEq κ] (key : α → κ)

def put (entry : α) : List α → List α
  | [] => [entry]
  | first :: rest => if key first = key entry then entry :: rest else first :: put entry rest

def putAll (base entries : List α) : List α :=
  entries.foldl (fun list entry => put key entry list) base

def under? (k : κ) (list : List α) : Option α := list.find? fun entry => key entry = k

theorem putFound (entry : α) (list : List α) (same : α → Bool)
    (agrees : ∀ other, same other = true ↔ key other = key entry) :
    put key entry list =
      (list.findIdx? same).elim (list ++ [entry]) fun place => list.set place entry := by
  induction list with
  | nil => rfl
  | cons first rest ih =>
    rw [put, ih, List.findIdx?_cons]
    by_cases here : key first = key entry
    · rw [if_pos here, if_pos ((agrees first).mpr here)]
      rfl
    · rw [if_neg here, if_neg fun found => here ((agrees first).mp found)]
      cases rest.findIdx? same <;> rfl

theorem putKeys (entry : α) (list : List α) :
    (put key entry list).map key =
      if key entry ∈ list.map key then list.map key else list.map key ++ [key entry] := by
  induction list with
  | nil => simp [put]
  | cons first rest ih =>
    rw [put]
    split
    · rename_i same
      simp [same]
    · rename_i other
      simp only [List.map_cons, ih, List.mem_cons, Ne.symm other, false_or]
      split <;> rfl

theorem putDistinct (entry : α) {list : List α} (distinct : (list.map key).Nodup) :
    ((put key entry list).map key).Nodup := by
  rw [putKeys]
  split
  · exact distinct
  · rename_i fresh
    rw [← List.concat_eq_append]
    exact distinct.concat fresh

theorem putUnder (entry : α) (k : κ) (list : List α) :
    under? key k (put key entry list) =
      if key entry = k then some entry else under? key k list := by
  unfold under?
  induction list with
  | nil => by_cases same : key entry = k <;> simp [put, same]
  | cons first rest ih =>
    rw [put]
    by_cases same : key entry = k
    · rw [if_pos same] at ih ⊢
      split
      · simp [same]
      · rename_i other
        rw [List.find?_cons_of_neg (by simpa [← same] using other), ih]
    · rw [if_neg same] at ih ⊢
      split
      · rename_i taken
        simp [same, taken]
      · simp only [List.find?_cons, ih]

theorem underIff {list : List α} (distinct : (list.map key).Nodup) (k : κ) (entry : α) :
    under? key k list = some entry ↔ entry ∈ list ∧ key entry = k := by
  refine ⟨fun found => ?_, fun ⟨member, same⟩ => ?_⟩
  · exact ⟨List.mem_of_find?_eq_some found, by simpa using List.find?_some found⟩
  · cases found : under? key k list with
    | none => exact absurd same (by simpa using List.find?_eq_none.mp found entry member)
    | some other =>
      have inside : other ∈ list := List.mem_of_find?_eq_some found
      have alike : key other = k := by simpa using List.find?_some found
      rw [List.inj_on_of_nodup_map distinct inside member (alike.trans same.symm)]

theorem putAllDistinct {base : List α} (distinct : (base.map key).Nodup) (entries : List α) :
    ((putAll key base entries).map key).Nodup := by
  induction entries generalizing base with
  | nil => exact distinct
  | cons entry rest ih => exact ih (putDistinct key entry distinct)

theorem putAllUnder (base entries : List α) (k : κ) :
    under? key k (putAll key base entries) =
      (under? key k entries.reverse).or (under? key k base) := by
  induction entries generalizing base with
  | nil => rfl
  | cons entry rest ih =>
    change under? key k (putAll key (put key entry base) rest) = _
    rw [ih, putUnder, List.reverse_cons]
    unfold under?
    rw [List.find?_append, Option.or_assoc]
    by_cases same : key entry = k <;> simp [same]

theorem putAllSame {base entries others : List α} (distinct : (base.map key).Nodup)
    (perm : entries.Perm others) (apart : (entries.map key).Nodup) (entry : α) :
    entry ∈ putAll key base entries ↔ entry ∈ putAll key base others := by
  have found : ∀ added : List α, entry ∈ putAll key base added ↔
      (under? key (key entry) added.reverse).or (under? key (key entry) base) = some entry := by
    intro added
    rw [← putAllUnder, underIff key (putAllDistinct key distinct added)]
    exact (and_iff_left rfl).symm
  have reversed : (entries.reverse.map key).Nodup := by
    rw [List.map_reverse]
    exact List.nodup_reverse.mpr apart
  have othersReversed : (others.reverse.map key).Nodup := by
    rw [List.map_reverse]
    exact List.nodup_reverse.mpr ((perm.map key).nodup_iff.mp apart)
  have same : under? key (key entry) entries.reverse = under? key (key entry) others.reverse := by
    refine Option.ext fun other => ?_
    rw [underIff key reversed, underIff key othersReversed, List.mem_reverse, List.mem_reverse,
      perm.mem_iff]
  rw [found, found, same]

theorem putAllKept (base entries : List α) :
    base.map key <+: (putAll key base entries).map key := by
  induction entries generalizing base with
  | nil => exact List.prefix_rfl
  | cons entry rest ih =>
    refine List.IsPrefix.trans ?_ (ih (put key entry base))
    rw [putKeys]
    split
    · exact List.prefix_rfl
    · exact List.prefix_append ..

theorem eraseDupsConcat (keys : List κ) (k : κ) :
    (keys ++ [k]).eraseDups = if k ∈ keys then keys.eraseDups else keys.eraseDups ++ [k] := by
  rw [List.eraseDups_append, List.removeAll, List.filter_singleton]
  by_cases seen : k ∈ keys <;> simp [seen, List.eraseDups_cons]

theorem putAllKeys (entries : List α) :
    (putAll key [] entries).map key = (entries.map key).eraseDups := by
  induction entries using List.reverseRecOn with
  | nil => rfl
  | append_singleton entries entry ih =>
    have step : putAll key [] (entries ++ [entry]) = put key entry (putAll key [] entries) :=
      List.foldl_concat ..
    rw [step, putKeys, ih, List.map_append, List.map_singleton, eraseDupsConcat]
    simp only [List.mem_eraseDups]

end LiveConsole.Keyed
