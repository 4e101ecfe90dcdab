import MpcNode.Runs

/-!
The runs the manager relies on. It checks neither that `rand::random()` draws an id that no
triple has, nor that a late message does not name a triple already spent: a `generate` over
a triple breaks the at-most-once law, and a `get_or_generate` of a spent id generates it
again (`generate_collision`, `spent_id_handed_out_twice`). Here the environment keeps to
both, `Fresh`, and over every such run the laws hold: no id is a triple and a generator at
once, no id is handed out twice, and `mine` holds each id once, each a triple or spent, so
`take_mine_twice` never panics.
-/

namespace MpcNode.TripleManager

variable {σ S P : Type} (cs : CaitSith σ S P)

/-- The environment's part, with `H` the ids spent so far: `generate` draws an id that is no
triple and not spent, and `get_or_generate` is not called for a spent id. -/
def Fresh (H : List TripleId) (s : TripleManager σ S P) : Op σ → Prop
  | .generate id => id ∉ s.triples ∧ id ∉ H
  | .getOrGenerate id _ => id ∉ H
  | _ => True

instance (H : List TripleId) (s : TripleManager σ S P) : (op : Op σ) → Decidable (Fresh H s op)
  | .generate id => inferInstanceAs (Decidable (id ∉ s.triples ∧ id ∉ H))
  | .getOrGenerate id _ => inferInstanceAs (Decidable (id ∉ H))
  | .poke _ | .take _ | .takeMineTwice => inferInstanceAs (Decidable True)

/-- The runs of a manager from `new` in which every step keeps to `Fresh`. -/
inductive FreshRun : TripleManager σ S P → List TripleId → List TripleId → Prop
  | new (participants : List Participant) (me : Participant) (threshold : Nat) (epoch : UInt64) :
      FreshRun (new participants me threshold epoch) [] []
  | step {s s' : TripleManager σ S P} {H M : List TripleId} {ts : List (Triple S P)} (op : Op σ) :
      FreshRun s H M → Fresh H s op → exec cs op s = some (ts, s') →
        FreshRun s' (H ++ ts.map (·.id)) (M ++ completedMine cs op s)

variable {cs}
variable {s s' : TripleManager σ S P} {H M : List TripleId} {ts : List (Triple S P)}
  {op : Op σ} {fuel : Nat} {r : Except ProtocolError (List (Participant × TripleMessage))}

theorem FreshRun.run (h : FreshRun cs s H M) : Run cs s H M := by
  induction h with
  | new => exact .new _ _ _ _
  | step op _ _ he ih => exact .step op ih he

/-! ### What a step hands out -/

/-- What a step hands out: triples under distinct ids, each the one stored under its id
before and neither a triple nor a generator after. -/
structure HandsOut (s s' : TripleManager σ S P) (ts : List (Triple S P)) : Prop where
  nodup : (ts.map (·.id)).Nodup
  taken : ∀ t ∈ ts, s.triples.lookup t.id = some t ∧ t.id ∉ s'.triples ∧ t.id ∉ s'.generators

lemma handsOut_nil : HandsOut s s' [] :=
  ⟨List.nodup_nil, fun _ h => absurd h (List.not_mem_nil _)⟩

lemma take_handsOut (id : TripleId) (hs : s.AtMostOnce) (hsu : s.StoredUnderId) :
    HandsOut s (take id s).2 (take id s).1.toList := by
  rw [take_eq]
  cases hl : s.triples.lookup id with
  | none => exact handsOut_nil
  | some t =>
    obtain rfl : t.id = id := hsu id t hl
    refine ⟨by simp, fun t' ht' => ?_⟩
    obtain rfl : t' = t := by simpa using ht'
    exact ⟨hl, fun h => (AList.mem_erase.1 h).1 rfl, hs _ (AList.lookup_isSome.1 (hl ▸ rfl))⟩

lemma takeMineTwice_handsOut {t : Option (Triple S P × Triple S P)}
    (h : takeMineTwice s = .ok (t, s')) (hs : s.AtMostOnce) (hsu : s.StoredUnderId) :
    HandsOut s s' ((t.map fun p => [p.1, p.2]).getD []) := by
  rcases takeMineTwice_ok h with ⟨rfl, rfl⟩ |
    ⟨id0, id1, rest, -, ⟨rfl, rfl⟩ | ⟨t0, t1, hne, h0, h1, rfl, rfl⟩⟩
  · exact handsOut_nil
  · exact handsOut_nil
  · obtain rfl : t0.id = id0 := hsu id0 t0 h0
    obtain rfl : t1.id = id1 := hsu id1 t1 h1
    have hl : ∀ t ∈ [t0, t1], s.triples.lookup t.id = some t := by simp [h0, h1]
    simp only [Option.map_some', Option.getD_some]
    refine ⟨by simpa using hne, fun t ht => ⟨hl t ht, ?_, ?_⟩⟩
    · simp only [List.mem_cons, List.mem_singleton, List.not_mem_nil, or_false] at ht
      rcases ht with rfl | rfl <;> simp [AList.mem_erase]
    · exact hs _ (AList.lookup_isSome.1 (hl t ht ▸ rfl))

lemma exec_handsOut (h : exec cs op s = some (ts, s')) (hs : s.AtMostOnce)
    (hsu : s.StoredUnderId) : HandsOut s s' ts := by
  cases op with
  | take id =>
    cases h
    exact take_handsOut id hs hsu
  | takeMineTwice =>
    obtain ⟨t, ht, rfl⟩ := exec_takeMineTwice h
    exact takeMineTwice_handsOut ht hs hsu
  | poke fuel =>
    obtain ⟨r, -, rfl⟩ := exec_poke h
    exact handsOut_nil
  | generate _ | getOrGenerate _ _ =>
    cases h
    exact handsOut_nil

lemma exec_triples_sub (h : exec cs op s = some (ts, s')) {k : TripleId} (hk : k ∈ s'.triples) :
    k ∈ s.triples ∨ k ∈ s.generators := by
  rcases exec_cases h with ⟨-, hsh | ⟨i, g, rfl, -⟩⟩ | ⟨fuel, r, -, hp⟩
  · obtain ⟨t, ht⟩ := exists_lookup_of_mem hk
    exact .inl (AList.lookup_isSome.1 (hsh.triples k t ht ▸ rfl))
  · exact .inl hk
  · rcases poke_lookup_cases hp k with ⟨ht, -⟩ | ⟨o, -, hg, -⟩
    · rw [← AList.lookup_isSome, ht, AList.lookup_isSome] at hk
      exact .inl hk
    · exact .inr hg

lemma exec_generators_sub (h : exec cs op s = some (ts, s')) {k : TripleId}
    (hk : k ∈ s'.generators) :
    k ∈ s.generators ∨ op = .generate k ∨ ∃ use, op = .getOrGenerate k use := by
  rcases exec_cases h with ⟨-, hsh | ⟨i, g, rfl, hi⟩⟩ | ⟨fuel, r, -, hp⟩
  · exact .inl (hsh.generators ▸ hk)
  · rcases (AList.mem_insert _).1 hk with rfl | hk
    · exact .inr (hi.imp_right fun ⟨use, hop, _⟩ => ⟨use, hop⟩)
    · exact .inl hk
  · rcases poke_lookup_cases hp k with ⟨-, hg⟩ | ⟨o, -, -, hg⟩
    exacts [.inl (hg hk), absurd hk hg]

lemma completedMine_nodup (op : Op σ) (s : TripleManager σ S P) :
    (completedMine cs op s).Nodup := by
  cases op
  case poke fuel => exact List.Nodup.sublist ((List.filter_sublist _).map _) s.generators.nodupKeys
  all_goals exact List.nodup_nil

/-! ### The discipline keeps the laws -/

/-- What a run that keeps to `Fresh` keeps, with `H` the ids spent so far. -/
structure Disciplined (s : TripleManager σ S P) (H : List TripleId) : Prop where
  atMostOnce : s.AtMostOnce
  storedUnderId : s.StoredUnderId
  /-- No id has been handed out twice. -/
  spent_nodup : H.Nodup
  /-- A spent id is neither a triple nor a generator. -/
  spent_gone : ∀ k ∈ H, k ∉ s.triples ∧ k ∉ s.generators
  mine_nodup : s.mine.Nodup
  /-- Every id in `mine` is a triple, or spent. -/
  mine_live : ∀ k ∈ s.mine, k ∈ s.triples ∨ k ∈ H

lemma disciplined_new (participants : List Participant) (me : Participant) (threshold : Nat)
    (epoch : UInt64) : Disciplined (new participants me threshold epoch : TripleManager σ S P) [] :=
  ⟨fun k hk => absurd hk (AList.not_mem_empty k), fun _ _ hk => (by cases hk), List.nodup_nil,
    fun _ hk => absurd hk (List.not_mem_nil _), List.nodup_nil,
    fun _ hk => absurd hk (List.not_mem_nil _)⟩

section Step

variable (h : exec cs op s = some (ts, s')) (hd : Disciplined s H)
include h hd

lemma exec_atMostOnce_of_fresh (hf : Fresh H s op) : s'.AtMostOnce := by
  rcases exec_cases h with ⟨-, hsh | ⟨i, g, rfl, hi⟩⟩ | ⟨fuel, r, -, hp⟩
  · exact atMostOnce_of_shrinks hsh hd.atMostOnce
  · refine atMostOnce_insert hd.atMostOnce ?_ g
    rcases hi with rfl | ⟨_, -, hi, -⟩
    exacts [hf.1, hi]
  · exact atMostOnce_of_poke hp hd.atMostOnce

lemma exec_spent_nodup : (H ++ ts.map (·.id)).Nodup := by
  have ho := exec_handsOut h hd.atMostOnce hd.storedUnderId
  refine List.nodup_append.2 ⟨hd.spent_nodup, ho.nodup, ?_⟩
  intro k hk hk'
  obtain ⟨t, ht, rfl⟩ := List.mem_map.1 hk'
  exact (hd.spent_gone _ hk).1 (AList.lookup_isSome.1 ((ho.taken t ht).1 ▸ rfl))

lemma exec_spent_gone (hf : Fresh H s op) :
    ∀ k ∈ H ++ ts.map (·.id), k ∉ s'.triples ∧ k ∉ s'.generators := by
  intro k hk
  rcases List.mem_append.1 hk with hk | hk
  · obtain ⟨ht, hg⟩ := hd.spent_gone k hk
    refine ⟨fun hk' => (exec_triples_sub h hk').elim ht hg, fun hk' => ?_⟩
    rcases exec_generators_sub h hk' with hk' | rfl | ⟨use, rfl⟩
    exacts [hg hk', hf.2 hk, hf hk]
  · obtain ⟨t, ht, rfl⟩ := List.mem_map.1 hk
    exact ((exec_handsOut h hd.atMostOnce hd.storedUnderId).taken t ht).2

lemma exec_mine_nodup : s'.mine.Nodup := by
  refine List.Nodup.sublist (exec_mine h).sublist
    (List.nodup_append.2 ⟨hd.mine_nodup, completedMine_nodup op s, ?_⟩)
  intro k hk hk'
  obtain ⟨fuel, G, -, hG, -⟩ := mem_completedMine hk'
  have hg : k ∈ s.generators := AList.lookup_isSome.1 (hG ▸ rfl)
  exact (hd.mine_live k hk).elim (fun ht => hd.atMostOnce k ht hg)
    fun hH => (hd.spent_gone k hH).2 hg

lemma exec_mine_live : ∀ k ∈ s'.mine, k ∈ s'.triples ∨ k ∈ H ++ ts.map (·.id) :=
  fun k hk => exec_live h hd.storedUnderId hd.mine_live k ((exec_mine h).subset hk)

/-- A step that keeps to `Fresh` keeps `Disciplined`, spending the ids it hands out. -/
lemma exec_disciplined (hf : Fresh H s op) : Disciplined s' (H ++ ts.map (·.id)) :=
  ⟨exec_atMostOnce_of_fresh h hd hf, exec_storedUnderId h hd.storedUnderId,
    exec_spent_nodup h hd, exec_spent_gone h hd hf, exec_mine_nodup h hd, exec_mine_live h hd⟩

end Step

lemma freshRun_inv (h : FreshRun cs s H M) : Disciplined s H := by
  induction h with
  | new => exact disciplined_new _ _ _ _
  | step op _ hf he ih => exact exec_disciplined he ih hf

lemma freshRun_take_mine : FreshRun instant { start with mine := [5] } [5] [5] :=
  have h₀ : FreshRun instant start [] [] := .new [⟨0⟩, ⟨1⟩] ⟨0⟩ 2 0
  ((h₀.step (.generate 5) (by decide) rfl).step (.poke 1) trivial rfl).step (.take 5) trivial rfl

lemma freshRun_pair : FreshRun instant pair [] [6, 5] :=
  have h₀ : FreshRun instant start [] [] := .new [⟨0⟩, ⟨1⟩] ⟨0⟩ 2 0
  ((h₀.step (.generate 5) (by decide) rfl).step (.generate 6) (by decide) rfl).step (.poke 1)
    trivial rfl

/-- **No id is used twice** in a run that keeps to `Fresh`: no id is at once a triple and a
generator, no id is handed out twice, and a spent id is neither a triple nor a generator. -/
theorem freshRun_spent_once (h : FreshRun cs s H M) :
    s.AtMostOnce ∧ H.Nodup ∧ ∀ k ∈ H, k ∉ s.triples ∧ k ∉ s.generators :=
  have hd := freshRun_inv h
  ⟨hd.atMostOnce, hd.spent_nodup, hd.spent_gone⟩

theorem take_mine_spent_once :
    ({ start with mine := [5] } : TripleManager _ _ _).AtMostOnce ∧ ([5] : List TripleId).Nodup ∧
      ∀ k ∈ ([5] : List TripleId), k ∉ ({ start with mine := [5] } : TripleManager _ _ _).triples ∧
        k ∉ ({ start with mine := [5] } : TripleManager _ _ _).generators :=
  freshRun_spent_once freshRun_take_mine

/-- **`take_mine_twice` never panics** in a run that keeps to `Fresh`. -/
theorem freshRun_takeMineTwice_ok (h : FreshRun cs s H M) : ∃ x, takeMineTwice s = .ok x :=
  takeMineTwice_of_nodup (freshRun_inv h).mine_nodup

theorem pair_takeMineTwice_ok : ∃ x, takeMineTwice pair = .ok x :=
  freshRun_takeMineTwice_ok freshRun_pair

/-- **The `mine` queue** in a run that keeps to `Fresh`: each id once, each a triple or
spent, so `my_len` exceeds `len` by at most the number of spent ids. -/
theorem freshRun_mine (h : FreshRun cs s H M) :
    s.mine.Nodup ∧ (∀ k ∈ s.mine, k ∈ s.triples ∨ k ∈ H) ∧ s.myLen ≤ s.len + H.length := by
  have hd := freshRun_inv h
  refine ⟨hd.mine_nodup, hd.mine_live, ?_⟩
  have hsub : s.mine ⊆ s.triples.keys ++ H := fun k hk =>
    (hd.mine_live k hk).elim (fun ht => List.mem_append_left _ (AList.mem_keys.1 ht))
      (List.mem_append_right _)
  simpa [myLen, len, AList.keys, List.keys] using
    (List.subperm_of_subset hd.mine_nodup hsub).length_le

/-- Spending a local triple by `take` leaves its id in `mine`: the bound is reached. -/
theorem take_mine_myLen :
    ({ start with mine := [5] } : TripleManager _ _ _).mine.Nodup ∧
      (∀ k ∈ ({ start with mine := [5] } : TripleManager _ _ _).mine,
        k ∈ ({ start with mine := [5] } : TripleManager _ _ _).triples ∨
          k ∈ ([5] : List TripleId)) ∧
      ({ start with mine := [5] } : TripleManager _ _ _).myLen ≤
        ({ start with mine := [5] } : TripleManager _ _ _).len + ([5] : List TripleId).length :=
  freshRun_mine freshRun_take_mine

end MpcNode.TripleManager
