import MpcNode.Runs

/-!
The manager id by id, over runs with their labels.

A labelled run (`Steps`) records each operation with the triples it handed out; every run is
one, from `new` (`Run.steps`). Along a labelled run the manager is, id by id, a machine that
sees only that id (`slotStep`): the triple and the generator under an id change only by a
`generate` or a `get_or_generate` of that id, by pokes of the generator's own protocol, or by
handing the triple out. No operation on another id and no other protocol reaches them
(`steps_slot`). However the ids fall, a run never hands out more triples than the pool held
and the protocols that `generate_triple` started along it (`steps_handedOut_le`).
-/

namespace MpcNode.TripleManager

variable {σ S P : Type} (cs : CaitSith σ S P)

/-- Runs with their labels: each operation, with the triples it handed out. -/
inductive Steps : TripleManager σ S P → List (Op σ × List (Triple S P)) →
    TripleManager σ S P → Prop
  | nil (s : TripleManager σ S P) : Steps s [] s
  | cons {s s₁ s' : TripleManager σ S P} {op : Op σ} {ts : List (Triple S P)}
      {l : List (Op σ × List (Triple S P))} :
      exec cs op s = some (ts, s₁) → Steps s₁ l s' → Steps s ((op, ts) :: l) s'

/-- What one id holds: its triple and its generator. -/
abbrev Slot (σ S P : Type) := Option (Triple S P) × Option (TripleGenerator σ)

/-- The slot of `k` in a manager. -/
def slot (k : TripleId) (s : TripleManager σ S P) : Slot σ S P :=
  (s.triples.lookup k, s.generators.lookup k)

/-- One operation as the slot of `k` sees it. `started` is what `generate_triple` returns, and
`out` the ids of the triples the operation handed out. -/
def slotStep (started : Except InitializationError σ) (k : TripleId) (out : List TripleId) :
    Op σ → Slot σ S P → Slot σ S P
  | .generate id, (t, g) =>
    if id = k then
      match started with
      | .ok p => (t, some ⟨p, true⟩)
      | .error _ => (t, g)
    else (t, g)
  | .getOrGenerate id use, (t, g) =>
    if id = k ∧ t.isNone then
      match g, started with
      | some G, _ => (t, some { G with protocol := use G.protocol })
      | none, .ok p => (t, some ⟨use p, false⟩)
      | none, .error _ => (t, none)
    else (t, g)
  | .poke fuel, (t, some G) =>
    match drive cs fuel G.protocol with
    | some (_, stop) => (stop.triple k t, stop.kept G)
    | none => (t, some G)
  | .poke _, (t, none) => (t, none)
  | .take _, (t, g) => (if k ∈ out then none else t, g)
  | .takeMineTwice, (t, g) => (if k ∈ out then none else t, g)

/-- The slot machine of `k` along the labels of a run. -/
def slotRun (started : Except InitializationError σ) (k : TripleId) :
    List (Op σ × List (Triple S P)) → Slot σ S P → Slot σ S P
  | [], x => x
  | (op, ts) :: l, x => slotRun started k l (slotStep cs started k (ts.map (·.id)) op x)

/-- Whether a step starts a protocol: it calls `generate_triple` and gets one back. A
`generate` always calls it, and a `get_or_generate` only for an id with neither a triple nor
a generator. -/
def startsProtocol (op : Op σ) (s : TripleManager σ S P) : Bool :=
  match op with
  | .generate _ => (cs.generateTriple s.participants s.me s.threshold).isOk
  | .getOrGenerate id _ =>
    !decide (id ∈ s.triples) && (s.generators.lookup id).isNone &&
      (cs.generateTriple s.participants s.me s.threshold).isOk
  | _ => false

/-- How many steps of a run from `s` along the given labels start a protocol. -/
def protocolsStarted : TripleManager σ S P → List (Op σ × List (Triple S P)) → Nat
  | _, [] => 0
  | s, (op, _) :: l =>
    match exec cs op s with
    | some (_, s₁) => (if startsProtocol cs op s then 1 else 0) + protocolsStarted s₁ l
    | none => 0

variable {cs}
variable {s s' : TripleManager σ S P} {ts : List (Triple S P)} {op : Op σ}
  {l : List (Op σ × List (Triple S P))}

lemma Steps.snoc {s₁ : TripleManager σ S P} (h : Steps cs s l s₁)
    (he : exec cs op s₁ = some (ts, s')) : Steps cs s (l ++ [(op, ts)]) s' := by
  induction h with
  | nil => exact .cons he (.nil _)
  | cons h₁ _ ih => exact .cons h₁ (ih he)

/-- Every run is a labelled run from `new`, and what it handed out is read off its labels. -/
theorem Run.steps {H M : List TripleId} (h : Run cs s H M) :
    ∃ participants me threshold epoch l,
      Steps cs (TripleManager.new participants me threshold epoch) l s ∧
      H = l.flatMap fun e => e.2.map (·.id) := by
  induction h with
  | new participants me threshold epoch =>
    exact ⟨participants, me, threshold, epoch, [], .nil _, rfl⟩
  | step op _ he ih =>
    obtain ⟨p, m, t, e, l, hl, rfl⟩ := ih
    exact ⟨p, m, t, e, l ++ [(op, _)], hl.snoc he, by simp⟩

lemma exec_config (h : exec cs op s = some (ts, s')) :
    s'.participants = s.participants ∧ s'.me = s.me ∧ s'.threshold = s.threshold := by
  cases op with
  | generate id =>
    cases h
    rcases generate_cases id s with h | ⟨p, h⟩ <;> rw [h] <;> exact ⟨rfl, rfl, rfl⟩
  | getOrGenerate id use =>
    cases h
    rcases getOrGenerate_cases id use s with h | ⟨-, g, h, -⟩ <;> rw [h] <;>
      exact ⟨rfl, rfl, rfl⟩
  | poke fuel =>
    obtain ⟨r, hp, -⟩ := exec_poke h
    obtain ⟨gens, acc, -, -, rfl⟩ := poke_some hp
    exact ⟨rfl, rfl, rfl⟩
  | take id =>
    cases h
    exact ⟨rfl, rfl, rfl⟩
  | takeMineTwice =>
    obtain ⟨t, ht, -⟩ := exec_takeMineTwice h
    rcases takeMineTwice_ok ht with ⟨-, rfl⟩ |
      ⟨_, _, _, -, ⟨-, rfl⟩ | ⟨_, _, -, -, -, -, rfl⟩⟩ <;> exact ⟨rfl, rfl, rfl⟩

/-! ### One operation, one id -/

section Slot

variable (started : Except InitializationError σ)

lemma slot_generate (id k : TripleId) (s : TripleManager σ S P) :
    slot k (generate cs id s).2 =
      slotStep cs (cs.generateTriple s.participants s.me s.threshold) k [] (.generate id)
        (slot k s) := by
  cases hp : cs.generateTriple s.participants s.me s.threshold with
  | error e => rw [generate_of_error id hp]; simp [slot, slotStep]
  | ok p =>
    rw [generate_of_ok id hp]
    by_cases hk : id = k
    · subst hk
      simp [slot, slotStep, AList.lookup_insert]
    · simp [slot, slotStep, hk, AList.lookup_insert_ne (Ne.symm hk)]

lemma slot_getOrGenerate (id k : TripleId) (use : σ → σ) (s : TripleManager σ S P) :
    slot k (getOrGenerate cs id use s).2 =
      slotStep cs (cs.generateTriple s.participants s.me s.threshold) k []
        (.getOrGenerate id use) (slot k s) := by
  by_cases hk : id = k
  · subst hk
    by_cases ht : id ∈ s.triples
    · obtain ⟨t, ht'⟩ := exists_lookup_of_mem ht
      simp [slot, slotStep, getOrGenerate_of_mem use ht, ht']
    have ht' : s.triples.lookup id = none := AList.lookup_eq_none.2 ht
    cases hg : s.generators.lookup id with
    | some G => simp [slot, slotStep, getOrGenerate_of_lookup use ht hg, ht', hg]
    | none =>
      cases hp : cs.generateTriple s.participants s.me s.threshold with
      | error e => simp [slot, slotStep, getOrGenerate_of_error use ht hg hp, ht', hg]
      | ok p => simp [slot, slotStep, getOrGenerate_of_none use ht hg hp, ht', hg]
  · rcases getOrGenerate_cases id use s with h | ⟨-, g, h, -⟩ <;> rw [h] <;>
      simp [slot, slotStep, hk, AList.lookup_insert_ne (Ne.symm hk)]

lemma slot_poke {fuel : Nat} {r : Except ProtocolError (List (Participant × TripleMessage))}
    (hp : poke cs fuel s = some (r, s')) (k : TripleId) :
    slot k s' = slotStep cs started k [] (.poke fuel) (slot k s) := by
  cases hG : s.generators.lookup k with
  | none =>
    obtain ⟨hg, ht⟩ := poke_frame hp k (AList.lookup_eq_none.1 hG)
    simp [slot, slotStep, hG, hg, ht]
  | some G =>
    obtain ⟨sends, stop, hd, hg, ht⟩ := poke_settled hp k G hG
    simp [slot, slotStep, hG, hd, hg, ht]

lemma slot_take (id k : TripleId) (hsu : s.StoredUnderId) :
    slot k (take id s).2 =
      slotStep cs started k ((take id s).1.toList.map (·.id)) (.take id) (slot k s) := by
  rw [take_eq]
  by_cases hk : k = id
  · subst hk
    cases ht : s.triples.lookup k with
    | none => simp [slot, slotStep, ht, AList.lookup_erase]
    | some t => simp [slot, slotStep, ht, hsu k t ht, AList.lookup_erase]
  · have hout : k ∉ (s.triples.lookup id).toList.map (·.id) := by
      cases ht : s.triples.lookup id with
      | none => simp
      | some t => simpa [hsu id t ht] using hk
    simp [slot, slotStep, hout, AList.lookup_erase_ne hk]

lemma slot_takeMineTwice {t : Option (Triple S P × Triple S P)}
    (ht : takeMineTwice s = .ok (t, s')) (hsu : s.StoredUnderId) (k : TripleId) :
    slot k s' = slotStep cs started k (((t.map fun p => [p.1, p.2]).getD []).map (·.id))
      .takeMineTwice (slot k s) := by
  rcases takeMineTwice_ok ht with ⟨rfl, rfl⟩ |
    ⟨id0, id1, rest, -, ⟨rfl, rfl⟩ | ⟨t0, t1, hne, h0, h1, rfl, rfl⟩⟩
  · simp [slot, slotStep]
  · simp [slot, slotStep]
  · simp only [slot, slotStep, Option.map_some', Option.getD_some, List.map_cons, List.map_nil,
      hsu _ _ h0, hsu _ _ h1, List.mem_cons, List.mem_singleton, List.not_mem_nil, or_false]
    by_cases h₀ : k = id0
    · subst h₀
      simp [AList.lookup_erase_ne hne, AList.lookup_erase]
    by_cases h₁ : k = id1
    · subst h₁
      simp [AList.lookup_erase]
    · simp [h₀, h₁, AList.lookup_erase_ne h₀, AList.lookup_erase_ne h₁]

end Slot

/-- One step, one id: what a step leaves under `k` is what the slot machine of `k` makes of
the step. -/
lemma exec_slot (h : exec cs op s = some (ts, s')) (hsu : s.StoredUnderId) (k : TripleId) :
    slot k s' = slotStep cs (cs.generateTriple s.participants s.me s.threshold) k
      (ts.map (·.id)) op (slot k s) := by
  cases op with
  | generate id =>
    cases h
    exact slot_generate id k s
  | getOrGenerate id use =>
    cases h
    exact slot_getOrGenerate id k use s
  | poke fuel =>
    obtain ⟨r, hp, rfl⟩ := exec_poke h
    exact slot_poke _ hp k
  | take id =>
    cases h
    exact slot_take _ id k hsu
  | takeMineTwice =>
    obtain ⟨t, ht, rfl⟩ := exec_takeMineTwice h
    exact slot_takeMineTwice _ ht hsu k

/-- **The manager, id by id.** Along a labelled run from a state whose triples are stored
under their ids, what is under any id is what the slot machine of that id makes of the
labels: operations on other ids and other protocols do not reach it. -/
theorem steps_slot (h : Steps cs s l s') (hsu : s.StoredUnderId) (k : TripleId) :
    slot k s' = slotRun cs (cs.generateTriple s.participants s.me s.threshold) k l (slot k s) := by
  induction h with
  | nil => rfl
  | cons he _ ih =>
    obtain ⟨hp, hm, ht⟩ := exec_config he
    rw [ih (exec_storedUnderId he hsu), hp, hm, ht, exec_slot he hsu k]
    rfl

lemma steps_pair :
    Steps instant start [(.generate 5, []), (.generate 6, []), (.poke 1, [])] pair :=
  .cons rfl (.cons rfl (.cons rfl (.nil _)))

theorem pair_slot :
    slot 6 pair =
      slotRun instant (instant.generateTriple start.participants start.me start.threshold) 6
        [(.generate 5, []), (.generate 6, []), (.poke 1, [])] (slot 6 start) :=
  steps_slot steps_pair (fun _ _ h => by cases h) 6

/-! ### The pool's count -/

lemma potentialLen_insert_le (id : TripleId) (g : TripleGenerator σ) (s : TripleManager σ S P) :
    ({ s with generators := s.generators.insert id g } : TripleManager σ S P).potentialLen ≤
      s.potentialLen + 1 := by
  have := length_insert_le s.generators id g
  dsimp only [potentialLen]
  omega

lemma exec_potentialLen_le (h : exec cs op s = some (ts, s')) :
    s'.potentialLen + ts.length ≤ s.potentialLen + if startsProtocol cs op s then 1 else 0 := by
  cases op with
  | generate id =>
    cases h
    cases hp : cs.generateTriple s.participants s.me s.threshold with
    | error e => simp [generate_of_error id hp, startsProtocol, hp]
    | ok p => simpa [generate_of_ok id hp, startsProtocol, hp] using potentialLen_insert_le id _ s
  | getOrGenerate id use =>
    cases h
    by_cases ht : id ∈ s.triples
    · simp [getOrGenerate_of_mem use ht, startsProtocol, ht]
    cases hg : s.generators.lookup id with
    | some G =>
      have := length_insert_of_mem { G with protocol := use G.protocol }
        (AList.lookup_isSome.1 (hg ▸ rfl) : id ∈ s.generators)
      simp only [getOrGenerate_of_lookup use ht hg, potentialLen, this, List.length_nil]
      omega
    | none =>
      cases hp : cs.generateTriple s.participants s.me s.threshold with
      | error e => simp [getOrGenerate_of_error use ht hg hp, startsProtocol]
      | ok p =>
        simpa [getOrGenerate_of_none use ht hg hp, startsProtocol, ht, hg, hp] using
          potentialLen_insert_le id _ s
  | poke fuel =>
    obtain ⟨r, hp, rfl⟩ := exec_poke h
    simpa [startsProtocol] using poke_potentialLen_le hp
  | take id =>
    cases h
    rw [take_eq]
    dsimp only [potentialLen, startsProtocol]
    cases ht : s.triples.lookup id with
    | none =>
      have := length_erase_le s.triples id
      simp only [Option.toList_none, List.length_nil]
      omega
    | some t =>
      have := length_erase_of_mem (AList.lookup_isSome.1 (ht ▸ rfl) : id ∈ s.triples)
      simp only [Option.toList_some, List.length_singleton]
      omega
  | takeMineTwice =>
    obtain ⟨t, ht, rfl⟩ := exec_takeMineTwice h
    rcases takeMineTwice_ok ht with ⟨rfl, rfl⟩ |
      ⟨id0, id1, rest, -, ⟨rfl, rfl⟩ | ⟨t0, t1, hne, h0, h1, rfl, rfl⟩⟩
    · simp [startsProtocol]
    · simp [potentialLen, startsProtocol]
    · have e0 := length_erase_of_mem (AList.lookup_isSome.1 (h0 ▸ rfl) : id0 ∈ s.triples)
      have e1 := length_erase_of_mem (AList.mem_erase.2
        ⟨Ne.symm hne, (AList.lookup_isSome.1 (h1 ▸ rfl) : id1 ∈ s.triples)⟩)
      dsimp only [potentialLen, startsProtocol]
      simp only [Option.map_some', Option.getD_some, List.length_cons, List.length_nil]
      omega

/-- **No triple out of nothing.** Along any labelled run, whatever ids `rand::random()` draws
and whatever messages arrive, the triples handed out and the pool left are at most the pool
at the start and the protocols started: from `new`, a run never hands out more triples than
it started protocols, even where ids collide or a spent id is generated again. -/
theorem steps_handedOut_le (h : Steps cs s l s') :
    s'.potentialLen + (l.flatMap (·.2)).length ≤ s.potentialLen + protocolsStarted cs s l := by
  induction h with
  | nil => simp [protocolsStarted]
  | cons he _ ih =>
    have := exec_potentialLen_le he
    simp only [List.flatMap_cons, List.length_append, protocolsStarted, he] at ih ⊢
    split_ifs at this ⊢ <;> omega

/-- A late message for the spent id `5` generates it again, and it is taken twice. -/
def spentTwice : List (Op (Script Unit Unit) × List (Triple Unit Unit)) :=
  [(.getOrGenerate 5 id, []), (.poke 1, []), (.take 5, [⟨5, (), ()⟩]),
    (.getOrGenerate 5 id, []), (.poke 1, []), (.take 5, [⟨5, (), ()⟩])]

lemma steps_spentTwice : Steps instant start spentTwice start :=
  .cons rfl (.cons rfl (.cons rfl (.cons rfl (.cons rfl (.cons rfl (.nil _))))))

theorem spentTwice_handedOut :
    (spentTwice.flatMap (·.2)).length = 2 ∧ protocolsStarted instant start spentTwice = 2 ∧
      start.potentialLen + (spentTwice.flatMap (·.2)).length ≤
        start.potentialLen + protocolsStarted instant start spentTwice :=
  ⟨rfl, rfl, steps_handedOut_le steps_spentTwice⟩

end MpcNode.TripleManager
