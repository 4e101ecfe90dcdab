import MpcNode.PokeSpec

/-!
Runs of the manager from `new`: any sequence of `generate` (whatever id `rand::random()`
draws), `get_or_generate` (whatever the caller does with the protocol it is handed),
`poke` (for any behaviour of the protocols, when it returns), `take` and
`take_mine_twice` (when it does not panic). As histories do, a run carries two ghost lists:
the ids of the triples it handed out, and the ids of the local generators its pokes
completed, in order.
-/

namespace MpcNode.TripleManager

variable {σ S P : Type} (cs : CaitSith σ S P)

/-- An operation of the manager, with what its environment chooses. -/
inductive Op (σ : Type)
  | generate (id : TripleId)
  | getOrGenerate (id : TripleId) (use : σ → σ)
  | poke (fuel : Nat)
  | take (id : TripleId)
  | takeMineTwice

/-- An operation on the manager: the triples it hands out, and the manager after it.
`none` is an operation that does not return: a poke whose protocols have not all stopped
within its fuel, or a panic. -/
def exec : Op σ → TripleManager σ S P → Option (List (Triple S P) × TripleManager σ S P)
  | .generate id, s => some ([], (generate cs id s).2)
  | .getOrGenerate id use, s => some ([], (getOrGenerate cs id use s).2)
  | .poke fuel, s => (poke cs fuel s).map fun x => ([], x.2)
  | .take id, s => some ((take id s).1.toList, (take id s).2)
  | .takeMineTwice, s =>
    match takeMineTwice s with
    | .ok (t, s) => some ((t.map fun p => [p.1, p.2]).getD [], s)
    | .error _ => none

/-- The ids of the local generators an operation completes, in order. -/
def completedMine : Op σ → TripleManager σ S P → List TripleId
  | .poke fuel, s =>
    (s.generators.entries.filter fun e => completes cs fuel e.2 && e.2.mine).map (·.1)
  | _, _ => []

/-- The runs of a manager from `new`: the manager reached, the ids of the triples handed
out, and the ids of the local generators completed. -/
inductive Run : TripleManager σ S P → List TripleId → List TripleId → Prop
  | new (participants : List Participant) (me : Participant) (threshold : Nat) (epoch : UInt64) :
      Run (new participants me threshold epoch) [] []
  | step {s s' : TripleManager σ S P} {H M : List TripleId} {ts : List (Triple S P)} (op : Op σ) :
      Run s H M → exec cs op s = some (ts, s') →
        Run s' (H ++ ts.map (·.id)) (M ++ completedMine cs op s)

/-- Operations one after the other from `s`: the ids handed out and the local ids completed
on the way, and the manager reached; `none` if some operation does not return. -/
def execAll : List (Op σ) → TripleManager σ S P →
    Option (List TripleId × List TripleId × TripleManager σ S P)
  | [], s => some ([], [], s)
  | op :: ops, s =>
    (exec cs op s).bind fun x => (execAll ops x.2).map fun y =>
      (x.1.map (·.id) ++ y.1, completedMine cs op s ++ y.2.1, y.2.2)

variable {cs}

theorem Run.execAll {s s' : TripleManager σ S P} {H M H' M' : List TripleId} :
    ∀ (ops : List (Op σ)), Run cs s H M → execAll cs ops s = some (H', M', s') →
      Run cs s' (H ++ H') (M ++ M')
  | [], h, he => by cases he; simpa using h
  | op :: ops, h, he => by
    obtain ⟨⟨ts, s₁⟩, h₁, he⟩ := Option.bind_eq_some.1 he
    obtain ⟨⟨H₂, M₂, s₂⟩, h₂, he⟩ := Option.map_eq_some'.1 he
    cases he
    simpa [List.append_assoc] using Run.execAll ops (Run.step op h h₁) h₂

variable {s s' : TripleManager σ S P} {H M : List TripleId} {ts : List (Triple S P)}
  {fuel : Nat} {r : Except ProtocolError (List (Participant × TripleMessage))}

lemma exec_poke (h : exec cs (.poke fuel) s = some (ts, s')) :
    ∃ r, poke cs fuel s = some (r, s') ∧ ts = [] := by
  obtain ⟨⟨r, s''⟩, hp, he⟩ := Option.map_eq_some'.1 h
  cases he
  exact ⟨r, hp, rfl⟩

lemma exec_takeMineTwice (h : exec cs .takeMineTwice s = some (ts, s')) :
    ∃ t, takeMineTwice s = .ok (t, s') ∧ ts = (t.map fun p => [p.1, p.2]).getD [] := by
  simp only [exec] at h
  split at h
  · cases h
    exact ⟨_, ‹_›, rfl⟩
  · cases h

/-- What a step can do: complete nothing and either only take triples and pop `mine`, or
store one generator (by a `generate` drawing its id, or by a `get_or_generate` of an id
that is not a triple, keeping the generator there with the caller's use of its protocol);
or poke. -/
lemma exec_cases {op : Op σ} (h : exec cs op s = some (ts, s')) :
    (completedMine cs op s = [] ∧ (Shrinks s s' ∨ ∃ id g,
      s' = { s with generators := s.generators.insert id g } ∧ (op = .generate id ∨
        ∃ use, op = .getOrGenerate id use ∧ id ∉ s.triples ∧
          ∀ G, s.generators.lookup id = some G → g = { G with protocol := use G.protocol }))) ∨
    ∃ fuel r, op = .poke fuel ∧ poke cs fuel s = some (r, s') := by
  cases op with
  | generate id =>
    cases h
    refine .inl ⟨rfl, ?_⟩
    rcases generate_cases id s with h | ⟨p, h⟩ <;> rw [h]
    exacts [.inl (Shrinks.refl s), .inr ⟨id, _, rfl, .inl rfl⟩]
  | getOrGenerate id use =>
    cases h
    refine .inl ⟨rfl, ?_⟩
    rcases getOrGenerate_cases id use s with h | ⟨hid, g, h, hsame, -⟩ <;> rw [h]
    exacts [.inl (Shrinks.refl s),
      .inr ⟨id, g, rfl, .inr ⟨use, rfl, hid, hsame⟩⟩]
  | poke fuel =>
    obtain ⟨r, hp, -⟩ := exec_poke h
    exact .inr ⟨fuel, r, rfl, hp⟩
  | take id =>
    cases h
    exact .inl ⟨rfl, .inl (take_shrinks id s)⟩
  | takeMineTwice =>
    obtain ⟨t, ht, -⟩ := exec_takeMineTwice h
    exact .inl ⟨rfl, .inl (takeMineTwice_shrinks ht)⟩

lemma poke_lookup_cases (hp : poke cs fuel s = some (r, s')) (k : TripleId) :
    (s'.triples.lookup k = s.triples.lookup k ∧ (k ∈ s'.generators → k ∈ s.generators)) ∨
      ∃ o : S × P, s'.triples.lookup k = some ⟨k, o.1, o.2⟩ ∧ k ∈ s.generators ∧
        k ∉ s'.generators := by
  by_cases hg : k ∈ s.generators
  · obtain ⟨G, hG⟩ := exists_lookup_of_mem hg
    obtain ⟨_, stop, -, hkept, ht⟩ := poke_settled hp k G hG
    cases stop with
    | wait _ => exact .inl ⟨ht, fun _ => hg⟩
    | «return» o => exact .inr ⟨o, ht, hg, AList.lookup_eq_none.1 hkept⟩
    | failed _ => exact .inl ⟨ht, fun _ => hg⟩
  · obtain ⟨hk, ht⟩ := poke_frame hp k hg
    exact .inl ⟨ht, fun h => absurd h (AList.lookup_eq_none.1 hk)⟩

/-- A manager of the participants `0` (this node) and `1`, with every protocol returning at
its first poke. -/
def instant : CaitSith (Script Unit Unit) Unit Unit := Script.caitSith [.ok (.«return» ((), ()))]

/-- A fresh manager of the participants `0` (this node) and `1`. -/
def start : TripleManager (Script Unit Unit) Unit Unit := new [⟨0⟩, ⟨1⟩] ⟨0⟩ 2 0

/-- A completed local triple under `7`, and a local generator started again under `7`. -/
def collided : TripleManager (Script Unit Unit) Unit Unit :=
  { start with
    triples := (∅ : AList _).insert 7 ⟨7, (), ()⟩
    generators := (∅ : AList _).insert 7 ⟨[.ok (.«return» ((), ()))], true⟩
    mine := [7] }

/-- A foreign generator under `7`, whose protocol the caller has moved on. -/
def joined : TripleManager (Script Unit Unit) Unit Unit :=
  { start with generators := (∅ : AList _).insert 7 ⟨[], false⟩ }

/-- Two local generators, under `5` and `6`, as two `generate`s leave them. -/
def twoLocal : TripleManager (Script Unit Unit) Unit Unit :=
  { start with
    generators := ((∅ : AList _).insert 5 ⟨[.ok (.«return» ((), ()))], true⟩).insert 6
      ⟨[.ok (.«return» ((), ()))], true⟩ }

/-- The two local triples `5` and `6`, completed by one poke of `twoLocal`. -/
def pair : TripleManager (Script Unit Unit) Unit Unit :=
  { start with
    triples := ((∅ : AList _).insert 6 ⟨6, (), ()⟩).insert 5 ⟨5, (), ()⟩
    mine := [6, 5] }

/-- The local id `5` twice in `mine`, with one triple under it. -/
def reused : TripleManager (Script Unit Unit) Unit Unit :=
  { start with triples := (∅ : AList _).insert 5 ⟨5, (), ()⟩, mine := [5, 5] }

lemma run_reused : Run instant reused [5] [5, 5] :=
  (Run.new [⟨0⟩, ⟨1⟩] ⟨0⟩ 2 0).execAll [.generate 5, .poke 1, .take 5, .generate 5, .poke 1] rfl

/-! ### Triples are stored under their ids -/

/-- Every triple is stored under its own id. -/
def StoredUnderId (s : TripleManager σ S P) : Prop := ∀ k t, s.triples.lookup k = some t → t.id = k

lemma exec_storedUnderId {op : Op σ} (h : exec cs op s = some (ts, s')) (hs : s.StoredUnderId) :
    s'.StoredUnderId := by
  rcases exec_cases h with ⟨-, hsh | ⟨id, g, rfl, -⟩⟩ | ⟨fuel, r, -, hp⟩
  · exact fun k t hk => hs k t (hsh.triples k t hk)
  · exact hs
  · intro k t hk
    rcases poke_lookup_cases hp k with ⟨ht, -⟩ | ⟨o, ht, -, -⟩ <;> rw [ht] at hk
    exacts [hs k t hk, by cases hk; rfl]

/-! ### The `mine` queue -/

lemma exec_mine {op : Op σ} (h : exec cs op s = some (ts, s')) :
    s'.mine <:+ s.mine ++ completedMine cs op s := by
  rcases exec_cases h with ⟨hc, hs⟩ | ⟨fuel, r, rfl, hp⟩
  · rw [hc, List.append_nil]
    rcases hs with hs | ⟨id, g, rfl, -⟩
    exacts [hs.mine, List.suffix_refl _]
  · rw [poke_mine hp]
    exact List.suffix_refl _

lemma run_take_mine : Run instant { start with mine := [5] } [5] [5] :=
  (Run.new [⟨0⟩, ⟨1⟩] ⟨0⟩ 2 0).execAll [.generate 5, .poke 1, .take 5] rfl

/-- Every protocol this node starts returns the share `0` at its first poke. -/
def shares : CaitSith (Script Nat Unit) Nat Unit := Script.caitSith [.ok (.«return» (0, ()))]

/-- What the router does with a late message for a spent id: the protocol that
`get_or_generate` starts for it goes on to return the share `1`. -/
def lateMessage : Script Nat Unit → Script Nat Unit := fun _ => [.ok (.«return» (1, ()))]

/-- The local triple `5` generated, completed and taken, and then a late message for `5`
joined as a foreign generator. -/
def lateJoined : TripleManager (Script Nat Unit) Nat Unit :=
  { (new [⟨0⟩, ⟨1⟩] ⟨0⟩ 2 0 : TripleManager (Script Nat Unit) Nat Unit) with
    generators := (∅ : AList _).insert 5 ⟨[.ok (.«return» (1, ()))], false⟩
    mine := [5] }

/-- `lateJoined` poked, then a local triple generated under `6` and completed. -/
def lateDone : TripleManager (Script Nat Unit) Nat Unit :=
  { (new [⟨0⟩, ⟨1⟩] ⟨0⟩ 2 0 : TripleManager (Script Nat Unit) Nat Unit) with
    triples := ((∅ : AList _).insert 5 ⟨5, 1, ()⟩).insert 6 ⟨6, 0, ()⟩
    mine := [5, 6] }

/-- `mine` keeps the ids of spent triples, and an id in it can hold a triple another node
initiated. `take` leaves its id in `mine`, so `my_len` counts a triple that is gone; and once
a late message for that id has started a foreign protocol under it, `take_mine_twice` hands
that protocol's triple out as one of this node's. -/
theorem mine_holds_spent_and_foreign :
    (Run instant { start with mine := [5] } [5] [5] ∧
      ({ start with mine := [5] } : TripleManager _ _ _).myLen = 1 ∧
      ({ start with mine := [5] } : TripleManager _ _ _).len = 0) ∧
    (Run shares lateJoined [5] [5] ∧
      lateJoined.generators.lookup 5 = some ⟨[.ok (.«return» (1, ()))], false⟩ ∧
      Run shares lateDone [5] [5, 6] ∧
      takeMineTwice lateDone = .ok (some (⟨5, 1, ()⟩, ⟨6, 0, ()⟩),
        { lateDone with triples := (lateDone.triples.erase 5).erase 6, mine := [] })) :=
  have h : Run shares lateJoined [5] [5] := (Run.new [⟨0⟩, ⟨1⟩] ⟨0⟩ 2 0).execAll
    [.generate 5, .poke 1, .take 5, .getOrGenerate 5 lateMessage] rfl
  ⟨⟨run_take_mine, rfl, rfl⟩, h, rfl, h.execAll [.poke 1, .generate 6, .poke 1] rfl, rfl⟩


/-! ### No completed id is dropped -/

lemma mem_completedMine {op : Op σ} {k : TripleId} (hk : k ∈ completedMine cs op s) :
    ∃ fuel G, op = .poke fuel ∧ s.generators.lookup k = some G ∧ completes cs fuel G = true := by
  cases op
  case poke fuel =>
    obtain ⟨⟨_, G⟩, he, rfl⟩ := List.mem_map.1 hk
    obtain ⟨he, hc⟩ := List.mem_filter.1 he
    exact ⟨fuel, G, rfl, AList.mem_lookup_iff.2 he, (Bool.and_eq_true_iff.1 hc).1⟩
  all_goals cases hk

lemma poke_completed_mem (hp : poke cs fuel s = some (r, s')) {k : TripleId}
    {G : TripleGenerator σ} (hg : s.generators.lookup k = some G)
    (hc : completes cs fuel G = true) : k ∈ s'.triples := by
  obtain ⟨sends, stop, hd, -, ht⟩ := poke_settled hp k G hg
  rw [completes, hd] at hc
  cases stop with
  | «return» o => exact AList.lookup_isSome.1 (ht ▸ rfl)
  | wait _ => cases hc
  | failed _ => cases hc

lemma exec_kept {op : Op σ} (h : exec cs op s = some (ts, s')) (hsu : s.StoredUnderId)
    {k : TripleId} (hk : k ∈ s.triples) : k ∈ s'.triples ∨ k ∈ ts.map (·.id) := by
  cases op with
  | take id =>
    cases h
    rw [take_eq]
    by_cases he : k = id
    · obtain ⟨t, ht⟩ := exists_lookup_of_mem hk
      subst he
      exact .inr (by simp [ht, hsu _ _ ht])
    · exact .inl (AList.mem_erase.2 ⟨he, hk⟩)
  | takeMineTwice =>
    obtain ⟨t, ht, rfl⟩ := exec_takeMineTwice h
    rcases takeMineTwice_ok ht with ⟨rfl, rfl⟩ |
      ⟨id0, id1, rest, -, ⟨rfl, rfl⟩ | ⟨t0, t1, -, h0, h1, rfl, rfl⟩⟩
    · exact .inl hk
    · exact .inl hk
    · simp only [Option.map_some', Option.getD_some, List.map_cons, List.map_nil,
        hsu _ _ h0, hsu _ _ h1, AList.mem_erase, List.mem_cons, List.mem_singleton,
        List.not_mem_nil, or_false]
      tauto
  | poke fuel =>
    obtain ⟨r, hp, -⟩ := exec_poke h
    refine .inl ?_
    rcases poke_lookup_cases hp k with ⟨ht, -⟩ | ⟨o, ht, -⟩ <;> rw [← AList.lookup_isSome, ht]
    exacts [AList.lookup_isSome.2 hk, rfl]
  | generate id =>
    cases h
    rcases generate_cases id s with h | ⟨p, h⟩ <;> rw [h] <;> exact .inl hk
  | getOrGenerate id use =>
    cases h
    rcases getOrGenerate_cases id use s with h | ⟨-, g, h, -⟩ <;> rw [h] <;> exact .inl hk

lemma exec_live {op : Op σ} (h : exec cs op s = some (ts, s')) (hsu : s.StoredUnderId)
    {L : List TripleId} (hL : ∀ k ∈ L, k ∈ s.triples ∨ k ∈ H) :
    ∀ k ∈ L ++ completedMine cs op s, k ∈ s'.triples ∨ k ∈ H ++ ts.map (·.id) := by
  intro k hk
  rcases List.mem_append.1 hk with hk | hk
  · rcases hL k hk with hk | hk
    · exact (exec_kept h hsu hk).imp_right (List.mem_append_right _)
    · exact .inr (List.mem_append_left _ hk)
  · obtain ⟨fuel, G, rfl, hG, hc⟩ := mem_completedMine hk
    obtain ⟨r, hp, -⟩ := exec_poke h
    exact .inl (poke_completed_mem hp hG hc)

/-- **No completed id is dropped.** In every run, the id of each local generator a poke
completed is still a key of `triples`, or it was handed out: no poke removes a key, and a
`take_mine_twice` that returns `None` leaves both keys in place. -/
theorem run_completed_kept (h : Run cs s H M) : ∀ k ∈ M, k ∈ s.triples ∨ k ∈ H := by
  suffices s.StoredUnderId ∧ ∀ k ∈ M, k ∈ s.triples ∨ k ∈ H from this.2
  induction h with
  | new => exact ⟨fun _ _ hk => (by cases hk), fun _ hk => (by cases hk)⟩
  | step _ _ he ih => exact ⟨exec_storedUnderId he ih.1, exec_live he ih.1 ih.2⟩

theorem take_mine_kept :
    (5 : TripleId) ∈ ({ start with mine := [5] } : TripleManager _ _ _).triples ∨
      (5 : TripleId) ∈ ([5] : List TripleId) :=
  run_completed_kept run_take_mine 5 (List.mem_singleton_self _)

/-! ### At most once -/

/-- At most once: no id is at once a completed triple and a running generator. -/
def AtMostOnce (s : TripleManager σ S P) : Prop := ∀ k, k ∈ s.triples → k ∉ s.generators

lemma atMostOnce_insert (hs : s.AtMostOnce) {id : TripleId} (hid : id ∉ s.triples)
    (g : TripleGenerator σ) : AtMostOnce { s with generators := s.generators.insert id g } := by
  intro k hk hg
  rcases (AList.mem_insert _).1 hg with rfl | hg
  · exact hid hk
  · exact hs k hk hg

lemma atMostOnce_of_shrinks (h : Shrinks s s') (hs : s.AtMostOnce) : s'.AtMostOnce := by
  intro k hk
  obtain ⟨t, ht⟩ := exists_lookup_of_mem hk
  rw [h.generators]
  exact hs k (AList.lookup_isSome.1 (h.triples k t ht ▸ rfl))

lemma atMostOnce_of_poke (hp : poke cs fuel s = some (r, s')) (hs : s.AtMostOnce) :
    s'.AtMostOnce := by
  intro k hk hk'
  rcases poke_lookup_cases hp k with ⟨ht, hg⟩ | ⟨o, -, -, hg⟩
  · rw [← AList.lookup_isSome, ht, AList.lookup_isSome] at hk
    exact hs k hk (hg hk')
  · exact hg hk'

/-- Every step keeps the at-most-once law, except a `generate` that draws the id of a
triple: `get_or_generate` checks `triples` first, and a poke moves a generator to `triples`
only as it drops it. -/
theorem exec_atMostOnce {op : Op σ} (h : exec cs op s = some (ts, s')) (hs : s.AtMostOnce)
    (hop : ∀ id, op = .generate id → id ∉ s.triples) : s'.AtMostOnce := by
  rcases exec_cases h with ⟨-, hsh | ⟨id, g, rfl, hid⟩⟩ | ⟨fuel, r, -, hp⟩
  · exact atMostOnce_of_shrinks hsh hs
  · exact atMostOnce_insert hs (hid.elim (hop id) fun ⟨_, _, h, _⟩ => h) g
  · exact atMostOnce_of_poke hp hs

/-- The triple `5` and a waiting foreign generator under `6`. -/
def heldAndRunning : TripleManager (Script Unit Unit) Unit Unit :=
  { start with
    triples := (∅ : AList _).insert 5 ⟨5, (), ()⟩
    generators := (∅ : AList _).insert 6 ⟨[], false⟩ }

theorem heldAndRunning_atMostOnce :
    ({ heldAndRunning with
        generators := heldAndRunning.generators.insert 7 ⟨[.ok (.«return» ((), ()))], false⟩ } :
      TripleManager _ _ _).AtMostOnce :=
  have hs : heldAndRunning.AtMostOnce := fun k hk hg => by
    rcases (AList.mem_insert _).1 hk with rfl | hk
    · rcases (AList.mem_insert _).1 hg with h | hg
      · exact absurd h (by decide)
      · exact AList.not_mem_empty _ hg
    · exact AList.not_mem_empty _ hk
  have h : exec instant (.getOrGenerate 7 id) heldAndRunning = some ([], { heldAndRunning with
      generators := heldAndRunning.generators.insert 7 ⟨[.ok (.«return» ((), ()))], false⟩ }) :=
    rfl
  exec_atMostOnce h hs fun _ h => by cases h

/-- **What `potential_len` promises.** Under the at-most-once law, a poke in which every
protocol returns turns every generator into a triple: it returns `Ok`, no generator is left,
and `len` is the old `potential_len`. -/
theorem poke_potentialLen (hs : s.AtMostOnce) (h : poke cs fuel s = some (r, s'))
    (hall : ∀ e ∈ s.generators.entries, completes cs fuel e.2 = true) :
    r.isOk = true ∧ s'.generators.entries = [] ∧ s'.len = s.potentialLen := by
  have hok : r.isOk = true := by
    cases hr : r.isOk
    · obtain ⟨g, G, hg, hf⟩ := (poke_error h).1 hr
      rw [fails_of_completes (hall ⟨g, G⟩ (AList.mem_lookup_iff.1 hg))] at hf
      cases hf
    · rfl
  obtain ⟨hp, hlen, -⟩ := poke_counts h hok fun g hg ht => hs g ht hg
  rw [List.filter_eq_self.2 hall] at hlen
  refine ⟨hok, List.eq_nil_of_length_eq_zero ?_, hlen⟩
  simp only [potentialLen, len] at hp hlen
  omega

theorem twoLocal_potentialLen :
    (Except.ok [] : Except ProtocolError (List (Participant × TripleMessage))).isOk = true ∧
      pair.generators.entries = [] ∧ pair.len = twoLocal.potentialLen :=
  have hs : twoLocal.AtMostOnce := fun k hk => absurd hk (AList.not_mem_empty k)
  have h : poke instant 1 twoLocal = some (.ok [], pair) := rfl
  poke_potentialLen hs h (by decide)

/-- `generate` drawing an id already in use: after its triple completed, the id is at once a
triple and a running generator; over a running foreign generator, that generator, with the
state its protocol had reached, is replaced by a fresh local one. -/
theorem generate_collision :
    Run instant collided [] [7] ∧ ¬ collided.AtMostOnce ∧
      Run instant joined [] [] ∧
      (exec instant (.generate 7) joined).map (fun x => (x.2.generators.lookup 7).map (·.mine)) =
        some (some true) := by
  refine ⟨(Run.new [⟨0⟩, ⟨1⟩] ⟨0⟩ 2 0).execAll [.generate 7, .poke 1, .generate 7] rfl,
    fun h => h 7 (by decide) (by decide),
    (Run.new [⟨0⟩, ⟨1⟩] ⟨0⟩ 2 0).execAll [.getOrGenerate 7 fun _ => []] rfl, rfl⟩

/-! ### Spent ids -/

/-- A late message for a spent id: `get_or_generate` starts its generation again, and the
id is handed out a second time. -/
theorem spent_id_handed_out_twice :
    Run instant start [5, 5] [] ∧ ¬ ([5, 5] : List TripleId).Nodup :=
  ⟨(Run.new [⟨0⟩, ⟨1⟩] ⟨0⟩ 2 0).execAll
    [.getOrGenerate 5 id, .poke 1, .take 5, .getOrGenerate 5 id, .poke 1, .take 5] rfl, by decide⟩

/-- A reachable state on which `take_mine_twice` panics at its second `unwrap`. -/
theorem takeMineTwice_panics :
    Run instant reused [5] [5, 5] ∧
      takeMineTwice reused = .error ⟨"called `Option::unwrap()` on a `None` value"⟩ :=
  ⟨run_reused, rfl⟩

/-- **All or nothing.** With two distinct ids at the front of `mine`, `take_mine_twice` pops
them, and takes both triples or none. -/
theorem takeMineTwice_all_or_nothing {id0 id1 : TripleId} {rest : List TripleId}
    (hm : s.mine = id0 :: id1 :: rest) (hne : id0 ≠ id1) :
    (∃ t0 t1, s.triples.lookup id0 = some t0 ∧ s.triples.lookup id1 = some t1 ∧
      takeMineTwice s = .ok (some (t0, t1),
        { s with triples := (s.triples.erase id0).erase id1, mine := rest })) ∨
    (¬(id0 ∈ s.triples ∧ id1 ∈ s.triples) ∧
      takeMineTwice s = .ok (none, { s with mine := rest })) := by
  by_cases hin : id0 ∈ s.triples ∧ id1 ∈ s.triples
  · obtain ⟨t0, h0⟩ := exists_lookup_of_mem hin.1
    obtain ⟨t1, h1⟩ := exists_lookup_of_mem hin.2
    exact .inl ⟨t0, t1, h0, h1, takeMineTwice_of_ne hm hne h0 h1⟩
  · exact .inr ⟨hin, takeMineTwice_of_not_mem hm hin⟩

theorem collided_all_or_nothing :
    ({ collided with mine := [7, 8] } : TripleManager _ _ _).takeMineTwice =
      .ok (none, { collided with mine := [] }) := by
  rcases takeMineTwice_all_or_nothing (s := { collided with mine := [7, 8] }) rfl (by decide)
    with ⟨_, _, -, h1, -⟩ | ⟨-, h⟩
  · cases h1
  · exact h

end MpcNode.TripleManager
