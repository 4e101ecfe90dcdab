import MpcNode.Types

/-!
The operations of the triple manager other than `poke`: starting a local generator, joining
a foreign one, and taking triples out.

A `&mut self` method returns its result together with the new manager. A panic of the
source is an `Except Panic` error; the run ends there. The `&mut TripleProtocol` that
`get_or_generate` hands out is modelled by the caller's use of it, `use`, applied to the
protocol in place.
-/

namespace MpcNode

/-- A Rust panic, with its message. -/
structure Panic where
  msg : String
  deriving DecidableEq, Repr

/-- `Option::unwrap`: a missing value panics. -/
def unwrap {α : Type} : Option α → Except Panic α
  | some a => .ok a
  | none => .error ⟨"called `Option::unwrap()` on a `None` value"⟩

namespace TripleManager

variable {σ S P : Type} (cs : CaitSith σ S P)

/-- Starts a new Beaver triple generation protocol, under the id `rand::random()` drew. -/
def generate (id : TripleId) (s : TripleManager σ S P) :
    Except InitializationError Unit × TripleManager σ S P :=
  match cs.generateTriple s.participants s.me s.threshold with
  | .error e => (.error e, s)
  | .ok protocol => (.ok (), { s with generators := s.generators.insert id ⟨protocol, true⟩ })

/-- Take an unspent triple by its id with no way to return it. -/
def take (id : TripleId) (s : TripleManager σ S P) : Option (Triple S P) × TripleManager σ S P :=
  let (t, triples) := s.triples.extract id
  (t, { s with triples })

/-- Take two random unspent triple generated by this node. Either takes both or none. The
last case is the `?` of `pop_front`, which the length check makes unreachable. -/
def takeMineTwice (s : TripleManager σ S P) :
    Except Panic (Option (Triple S P × Triple S P) × TripleManager σ S P) :=
  if s.mine.length < 2 then .ok (none, s)
  else
    match s.mine with
    | id0 :: id1 :: mine =>
      if id0 ∈ s.triples ∧ id1 ∈ s.triples then do
        let (t0, triples) := s.triples.extract id0
        let t0 ← unwrap t0
        let (t1, triples) := triples.extract id1
        let t1 ← unwrap t1
        pure (some (t0, t1), { s with triples, mine })
      else .ok (none, { s with mine })
    | _ => .ok (none, s)

/-- Ensures that the triple with the given id is either already generated (`none`), or
currently being generated by the protocol handed out, or has never been seen, in which case
a new protocol is started and handed out. -/
def getOrGenerate (id : TripleId) (use : σ → σ) (s : TripleManager σ S P) :
    Except InitializationError (Option σ) × TripleManager σ S P :=
  if id ∈ s.triples then (.ok none, s)
  else
    match s.generators.lookup id with
    | none =>
      match cs.generateTriple s.participants s.me s.threshold with
      | .error e => (.error e, s)
      | .ok protocol =>
        (.ok (some protocol), { s with generators := s.generators.insert id ⟨use protocol, false⟩ })
    | some generator =>
      (.ok (some generator.protocol),
        { s with
          generators :=
            s.generators.insert id { generator with protocol := use generator.protocol } })

/-! ### Spec lemmas -/

lemma exists_lookup_of_mem {V : Type} {m : AList fun _ : TripleId => V} {k : TripleId}
    (h : k ∈ m) : ∃ v, m.lookup k = some v :=
  Option.isSome_iff_exists.1 (AList.lookup_isSome.2 h)

lemma lookup_of_lookup_erase {V : Type} {m : AList fun _ : TripleId => V} {a k : TripleId} {v : V}
    (h : (m.erase a).lookup k = some v) : m.lookup k = some v := by
  by_cases hk : k = a
  · subst hk
    rw [AList.lookup_erase] at h
    cases h
  · rwa [AList.lookup_erase_ne hk] at h

lemma length_insert_le {V : Type} (m : AList fun _ : TripleId => V) (k : TripleId) (v : V) :
    (m.insert k v).entries.length ≤ m.entries.length + 1 := by
  rw [AList.insert_entries, List.length_cons]
  exact Nat.succ_le_succ (List.kerase_sublist _ _).length_le

lemma length_erase_of_mem {V : Type} {m : AList fun _ : TripleId => V} {k : TripleId}
    (hk : k ∈ m) : (m.erase k).entries.length + 1 = m.entries.length := by
  obtain ⟨v, hv⟩ := exists_lookup_of_mem hk
  have hm := AList.mem_lookup_iff.1 hv
  have h : (m.erase k).entries.length = m.entries.length - 1 :=
    List.length_eraseP_of_mem (p := fun e : (Σ _ : TripleId, V) => decide (k = e.1)) hm (by simp)
  have hpos := List.length_pos_of_mem hm
  omega

lemma length_insert_of_mem {V : Type} {m : AList fun _ : TripleId => V} {k : TripleId} (v : V)
    (hk : k ∈ m) : (m.insert k v).entries.length = m.entries.length := by
  have h : (m.insert k v).entries.length = (m.erase k).entries.length + 1 :=
    congrArg List.length (AList.insert_entries ..)
  rw [h, length_erase_of_mem hk]

lemma length_erase_le {V : Type} (m : AList fun _ : TripleId => V) (k : TripleId) :
    (m.erase k).entries.length ≤ m.entries.length :=
  (List.kerase_sublist k m.entries).length_le

variable {cs}

lemma generate_of_ok {s : TripleManager σ S P} {p : σ} (id : TripleId)
    (h : cs.generateTriple s.participants s.me s.threshold = .ok p) :
    generate cs id s = (.ok (), { s with generators := s.generators.insert id ⟨p, true⟩ }) := by
  simp [generate, h]

lemma generate_of_error {s : TripleManager σ S P} {e : InitializationError} (id : TripleId)
    (h : cs.generateTriple s.participants s.me s.threshold = .error e) :
    generate cs id s = (.error e, s) := by
  simp [generate, h]

lemma take_eq (id : TripleId) (s : TripleManager σ S P) :
    take id s = (s.triples.lookup id, { s with triples := s.triples.erase id }) := by
  simp [take, AList.extract_eq_lookup_erase]

lemma takeMineTwice_of_lt {s : TripleManager σ S P} (h : s.mine.length < 2) :
    takeMineTwice s = .ok (none, s) := by
  simp [takeMineTwice, h]

lemma takeMineTwice_of_not_mem {s : TripleManager σ S P} {id0 id1 : TripleId}
    {rest : List TripleId} (hm : s.mine = id0 :: id1 :: rest)
    (h : ¬(id0 ∈ s.triples ∧ id1 ∈ s.triples)) :
    takeMineTwice s = .ok (none, { s with mine := rest }) := by
  simp [takeMineTwice, hm, if_neg h]

lemma takeMineTwice_of_ne {s : TripleManager σ S P} {id0 id1 : TripleId} {rest : List TripleId}
    {t0 t1 : Triple S P} (hm : s.mine = id0 :: id1 :: rest) (hne : id0 ≠ id1)
    (h0 : s.triples.lookup id0 = some t0) (h1 : s.triples.lookup id1 = some t1) :
    takeMineTwice s =
      .ok (some (t0, t1), { s with triples := (s.triples.erase id0).erase id1, mine := rest }) := by
  have hm0 : id0 ∈ s.triples := AList.lookup_isSome.1 (h0 ▸ rfl)
  have hm1 : id1 ∈ s.triples := AList.lookup_isSome.1 (h1 ▸ rfl)
  have h1' : (s.triples.erase id0).lookup id1 = some t1 := by
    rw [AList.lookup_erase_ne (Ne.symm hne), h1]
  simp [takeMineTwice, hm, hm0, hm1, AList.extract_eq_lookup_erase, h0, h1', unwrap]
  rfl

lemma takeMineTwice_of_eq {s : TripleManager σ S P} {id0 : TripleId} {rest : List TripleId}
    (hm : s.mine = id0 :: id0 :: rest) (h : id0 ∈ s.triples) :
    takeMineTwice s = .error ⟨"called `Option::unwrap()` on a `None` value"⟩ := by
  obtain ⟨t0, h0⟩ := exists_lookup_of_mem h
  simp [takeMineTwice, hm, h, AList.extract_eq_lookup_erase, h0, unwrap]
  rfl

lemma getOrGenerate_of_mem {s : TripleManager σ S P} {id : TripleId} (use : σ → σ)
    (h : id ∈ s.triples) : getOrGenerate cs id use s = (.ok none, s) := by
  simp [getOrGenerate, h]

lemma getOrGenerate_of_lookup {s : TripleManager σ S P} {id : TripleId} {g : TripleGenerator σ}
    (use : σ → σ) (h : id ∉ s.triples) (hg : s.generators.lookup id = some g) :
    getOrGenerate cs id use s = (.ok (some g.protocol),
      { s with generators := s.generators.insert id { g with protocol := use g.protocol } }) := by
  simp [getOrGenerate, h, hg]

lemma getOrGenerate_of_none {s : TripleManager σ S P} {id : TripleId} {p : σ} (use : σ → σ)
    (h : id ∉ s.triples) (hg : s.generators.lookup id = none)
    (hp : cs.generateTriple s.participants s.me s.threshold = .ok p) :
    getOrGenerate cs id use s = (.ok (some p),
      { s with generators := s.generators.insert id ⟨use p, false⟩ }) := by
  simp [getOrGenerate, h, hg, hp]

lemma getOrGenerate_of_error {s : TripleManager σ S P} {id : TripleId} {e : InitializationError}
    (use : σ → σ) (h : id ∉ s.triples) (hg : s.generators.lookup id = none)
    (hp : cs.generateTriple s.participants s.me s.threshold = .error e) :
    getOrGenerate cs id use s = (.error e, s) := by
  simp [getOrGenerate, h, hg, hp]

lemma unchanged_of_error {s : TripleManager σ S P} {id : TripleId} {use : σ → σ}
    {e : InitializationError} :
    ((generate cs id s).1 = .error e → (generate cs id s).2 = s) ∧
      ((getOrGenerate cs id use s).1 = .error e → (getOrGenerate cs id use s).2 = s) := by
  constructor
  · cases hp : cs.generateTriple s.participants s.me s.threshold with
    | error e' => exact fun _ => by rw [generate_of_error id hp]
    | ok p => rw [generate_of_ok id hp]; exact fun h => by cases h
  · by_cases h : id ∈ s.triples
    · exact fun _ => by rw [getOrGenerate_of_mem use h]
    cases hg : s.generators.lookup id with
    | some g => rw [getOrGenerate_of_lookup use h hg]; exact fun h => by cases h
    | none =>
      cases hp : cs.generateTriple s.participants s.me s.threshold with
      | error e' => exact fun _ => by rw [getOrGenerate_of_error use h hg hp]
      | ok p => rw [getOrGenerate_of_none use h hg hp]; exact fun h => by cases h

lemma generate_cases (id : TripleId) (s : TripleManager σ S P) :
    (generate cs id s).2 = s ∨
      ∃ p, (generate cs id s).2 = { s with generators := s.generators.insert id ⟨p, true⟩ } := by
  cases hp : cs.generateTriple s.participants s.me s.threshold with
  | error e => exact .inl (by rw [generate_of_error id hp])
  | ok p => exact .inr ⟨p, by rw [generate_of_ok id hp]⟩

lemma getOrGenerate_cases (id : TripleId) (use : σ → σ) (s : TripleManager σ S P) :
    (getOrGenerate cs id use s).2 = s ∨
      id ∉ s.triples ∧ ∃ g, (getOrGenerate cs id use s).2 =
        { s with generators := s.generators.insert id g } ∧
        (∀ g₀, s.generators.lookup id = some g₀ → g = { g₀ with protocol := use g₀.protocol }) ∧
        (s.generators.lookup id = none → g.mine = false) := by
  by_cases h : id ∈ s.triples
  · exact .inl (by rw [getOrGenerate_of_mem use h])
  · cases hg : s.generators.lookup id with
    | some g₀ =>
      exact .inr ⟨h, _, by rw [getOrGenerate_of_lookup use h hg], fun g₁ h₁ => by cases h₁; rfl,
        by simp⟩
    | none =>
      cases hp : cs.generateTriple s.participants s.me s.threshold with
      | error e => exact .inl (by rw [getOrGenerate_of_error use h hg hp])
      | ok p => exact .inr ⟨h, _, by rw [getOrGenerate_of_none use h hg hp], by simp, fun _ => rfl⟩

lemma takeMineTwice_cases (s : TripleManager σ S P) :
    (s.mine.length < 2 ∧ takeMineTwice s = .ok (none, s)) ∨
    ∃ id0 id1 rest, s.mine = id0 :: id1 :: rest ∧
      ((¬(id0 ∈ s.triples ∧ id1 ∈ s.triples) ∧
          takeMineTwice s = .ok (none, { s with mine := rest })) ∨
        (id0 = id1 ∧ id0 ∈ s.triples ∧
          takeMineTwice s = .error ⟨"called `Option::unwrap()` on a `None` value"⟩) ∨
        ∃ t0 t1, id0 ≠ id1 ∧ s.triples.lookup id0 = some t0 ∧ s.triples.lookup id1 = some t1 ∧
          takeMineTwice s = .ok (some (t0, t1),
            { s with triples := (s.triples.erase id0).erase id1, mine := rest })) := by
  match hm : s.mine with
  | [] | [_] => exact .inl ⟨by simp, takeMineTwice_of_lt (by simp [hm])⟩
  | id0 :: id1 :: rest =>
    refine .inr ⟨id0, id1, rest, rfl, ?_⟩
    by_cases hin : id0 ∈ s.triples ∧ id1 ∈ s.triples
    · by_cases he : id0 = id1
      · subst he
        exact .inr (.inl ⟨rfl, hin.1, takeMineTwice_of_eq hm hin.1⟩)
      · obtain ⟨t0, h0⟩ := exists_lookup_of_mem hin.1
        obtain ⟨t1, h1⟩ := exists_lookup_of_mem hin.2
        exact .inr (.inr ⟨t0, t1, he, h0, h1, takeMineTwice_of_ne hm he h0 h1⟩)
    · exact .inl ⟨hin, takeMineTwice_of_not_mem hm hin⟩

/-- Every way `take_mine_twice` can return: unchanged with nothing taken, or with the two
front ids popped and either nothing taken or both of them, distinct. -/
lemma takeMineTwice_ok {s s' : TripleManager σ S P} {t : Option (Triple S P × Triple S P)}
    (h : takeMineTwice s = .ok (t, s')) :
    t = none ∧ s' = s ∨ ∃ id0 id1 rest, s.mine = id0 :: id1 :: rest ∧
      (t = none ∧ s' = { s with mine := rest } ∨
        ∃ t0 t1, id0 ≠ id1 ∧ s.triples.lookup id0 = some t0 ∧ s.triples.lookup id1 = some t1 ∧
          t = some (t0, t1) ∧
          s' = { s with triples := (s.triples.erase id0).erase id1, mine := rest }) := by
  rcases takeMineTwice_cases s with ⟨-, h'⟩ |
    ⟨id0, id1, rest, hm, ⟨-, h'⟩ | ⟨-, -, h'⟩ | ⟨t0, t1, hne, h0, h1, h'⟩⟩ <;> rw [h'] at h <;>
    cases h
  · exact .inl ⟨rfl, rfl⟩
  · exact .inr ⟨id0, id1, rest, hm, .inl ⟨rfl, rfl⟩⟩
  · exact .inr ⟨id0, id1, rest, hm, .inr ⟨t0, t1, hne, h0, h1, rfl, rfl⟩⟩

lemma takeMineTwice_of_nodup {s : TripleManager σ S P} (h : s.mine.Nodup) :
    ∃ r, takeMineTwice s = .ok r := by
  rcases takeMineTwice_cases s with ⟨-, h'⟩ |
    ⟨id0, id1, rest, hm, ⟨-, h'⟩ | ⟨rfl, -⟩ | ⟨_, _, -, -, -, h'⟩⟩
  · exact ⟨_, h'⟩
  · exact ⟨_, h'⟩
  · simp [hm] at h
  · exact ⟨_, h'⟩

/-- **When `take_mine_twice` panics**: exactly when the two ids at the front of `mine` are one
id, and it is a triple. -/
theorem takeMineTwice_error_iff (s : TripleManager σ S P) :
    (∃ e, takeMineTwice s = .error e) ↔ ∃ id rest, s.mine = id :: id :: rest ∧ id ∈ s.triples := by
  have hok : ∀ {x}, takeMineTwice s = .ok x → ¬∃ e, takeMineTwice s = .error e :=
    fun h ⟨_, he⟩ => by rw [h] at he; cases he
  rcases takeMineTwice_cases s with ⟨hl, h⟩ | ⟨id0, id1, rest, hm, hpop⟩
  · refine iff_of_false (hok h) fun ⟨_, _, hm, _⟩ => ?_
    rw [hm, List.length_cons, List.length_cons] at hl
    omega
  have hsame : ∀ {id rest'}, s.mine = id :: id :: rest' → id0 = id ∧ id1 = id := fun hm' =>
    have h := List.cons.inj (hm.symm.trans hm')
    ⟨h.1, (List.cons.inj h.2).1⟩
  rcases hpop with ⟨hin, h⟩ | ⟨rfl, hin, h⟩ | ⟨t0, t1, hne, -, -, h⟩
  · refine iff_of_false (hok h) fun ⟨id, _, hm', hid⟩ => ?_
    obtain ⟨rfl, rfl⟩ := hsame hm'
    exact hin ⟨hid, hid⟩
  · exact iff_of_true ⟨_, h⟩ ⟨id0, rest, hm, hin⟩
  · exact iff_of_false (hok h) fun ⟨_, _, hm', _⟩ => hne ((hsame hm').1.trans (hsame hm').2.symm)

/-- The takes leave the generators alone, only remove triples, and only pop `mine`. -/
structure Shrinks (s s' : TripleManager σ S P) : Prop where
  generators : s'.generators = s.generators
  triples : ∀ k t, s'.triples.lookup k = some t → s.triples.lookup k = some t
  mine : s'.mine <:+ s.mine

lemma Shrinks.refl (s : TripleManager σ S P) : Shrinks s s :=
  ⟨rfl, fun _ _ => id, List.suffix_refl _⟩

lemma take_shrinks (id : TripleId) (s : TripleManager σ S P) : Shrinks s (take id s).2 := by
  rw [take_eq]
  exact ⟨rfl, fun _ _ => lookup_of_lookup_erase, List.suffix_refl _⟩

lemma takeMineTwice_shrinks {s s' : TripleManager σ S P} {t : Option (Triple S P × Triple S P)}
    (h : takeMineTwice s = .ok (t, s')) : Shrinks s s' := by
  rcases takeMineTwice_ok h with ⟨-, rfl⟩ | ⟨id0, id1, rest, hm, ⟨-, rfl⟩ | ⟨_, _, -, -, -, -, rfl⟩⟩
  · exact Shrinks.refl _
  all_goals refine ⟨rfl, ?_, hm ▸ (List.suffix_cons _ _).trans (List.suffix_cons _ _)⟩
  · exact fun _ _ => id
  · exact fun _ _ h => lookup_of_lookup_erase (lookup_of_lookup_erase h)

end TripleManager

end MpcNode
