import MpcNode.Manager

/-!
`poke`: every generator's protocol is poked, inside the closure of `generators.retain`,
until it waits, returns or fails. Sends become messages on the way; a return becomes a
triple, queued in `mine` if the generator is local; a failure becomes the `result`.

The closure's `loop` runs on `fuel`. `none` is a protocol that has not stopped within
`fuel` pokes, where the source would go on looping, so a result about a `poke` that
returns holds of every run of the source that returns.

Over the faithful model, `drive` is a protocol on its own poked until it stops, and
`settle` what the closure does once it has: `pokeLoop_eq` says the loop is the one after the
other, and `poke_eq_pokeSpec` that `poke` is the design's `pokeSpec`, built from the two.
Everything a generator contributes to `poke` is thus a function of its own protocol.
-/

namespace MpcNode

/-- How a protocol stops within one manager poke. -/
inductive Stop (σ O : Type)
  | wait (protocol : σ)
  | «return» (output : O)
  | failed (e : ProtocolError)

/-- The generator kept once its protocol stopped: only a waiting one. -/
def Stop.kept {σ S P : Type} (g : TripleGenerator σ) : Stop σ (S × P) → Option (TripleGenerator σ)
  | .wait p => some { g with protocol := p }
  | _ => none

/-- The triple under `id` once the protocol of its generator stopped. -/
def Stop.triple {σ S P : Type} (id : TripleId) (old : Option (Triple S P)) :
    Stop σ (S × P) → Option (Triple S P)
  | .«return» output => some ⟨id, output.1, output.2⟩
  | _ => old

def Stop.isReturn {σ O : Type} : Stop σ O → Bool
  | .«return» _ => true
  | _ => false

def Stop.isFailed {σ O : Type} : Stop σ O → Bool
  | .failed _ => true
  | _ => false

namespace TripleManager

variable {σ S P : Type} (cs : CaitSith σ S P)

/-- What `poke`'s closure changes besides the generator: the messages, the `result`, and
the manager's `triples` and `mine`. -/
structure Retain (S P : Type) where
  messages : List (Participant × TripleMessage)
  result : Except ProtocolError Unit
  triples : AList fun _ : TripleId => Triple S P
  mine : List TripleId

/-- The message of the generator `id` that carries `data` to `p`. -/
def message (s : TripleManager σ S P) (id : TripleId) (p : Participant) (data : MessageData) :
    Participant × TripleMessage :=
  (p, ⟨id, s.epoch, s.me, data⟩)

/-- The `loop` of `poke`'s closure on the generator `id`: the generator kept (`none` where
the closure returns `false`), and what the loop changed. -/
def pokeLoop (s : TripleManager σ S P) (id : TripleId) :
    Nat → TripleGenerator σ → Retain S P → Option (Option (TripleGenerator σ) × Retain S P)
  | 0, _, _ => none
  | fuel + 1, generator, acc =>
    match cs.poke generator.protocol with
    | .error e => some (none, { acc with result := .error e })
    | .ok (action, protocol) =>
      let generator := { generator with protocol }
      match action with
      | .wait => some (some generator, acc)
      | .sendMany data =>
        pokeLoop s id fuel generator
          { acc with messages := acc.messages ++ s.participants.map fun p => message s id p data }
      | .sendPrivate p data =>
        pokeLoop s id fuel generator { acc with messages := acc.messages ++ [message s id p data] }
      | .«return» output =>
        some (none, { acc with
          triples := acc.triples.insert id ⟨id, output.1, output.2⟩
          mine := if generator.mine then acc.mine ++ [id] else acc.mine })

/-- `generators.retain` with `poke`'s closure, over the entries in iteration order. -/
def retain (s : TripleManager σ S P) (fuel : Nat) :
    List (Σ _ : TripleId, TripleGenerator σ) → Retain S P →
      Option (AList (fun _ : TripleId => TripleGenerator σ) × Retain S P)
  | [], acc => some (∅, acc)
  | ⟨id, generator⟩ :: rest, acc => do
    let (kept, acc) ← pokeLoop cs s id fuel generator acc
    let (generators, acc) ← retain s fuel rest acc
    pure (kept.elim generators fun g => generators.insert id g, acc)

/-- Pokes all of the ongoing generation protocols and returns a vector of messages to be
sent to the respective participant. -/
def poke (fuel : Nat) (s : TripleManager σ S P) :
    Option (Except ProtocolError (List (Participant × TripleMessage)) × TripleManager σ S P) := do
  let (generators, acc) ← retain cs s fuel s.generators.entries ⟨[], .ok (), s.triples, s.mine⟩
  pure (acc.result.map fun _ => acc.messages,
    { s with generators, triples := acc.triples, mine := acc.mine })

/-! ### A protocol on its own -/

/-- A protocol poked until it stops: the actions it took before, in order, and how it
stopped. -/
def drive : Nat → σ → Option (List (Action (S × P)) × Stop σ (S × P))
  | 0, _ => none
  | fuel + 1, p =>
    match cs.poke p with
    | .error e => some ([], .failed e)
    | .ok (.wait, p) => some ([], .wait p)
    | .ok (.«return» output, _) => some ([], .«return» output)
    | .ok (.sendMany data, p) => (drive fuel p).map fun r => (.sendMany data :: r.1, r.2)
    | .ok (.sendPrivate q data, p) => (drive fuel p).map fun r => (.sendPrivate q data :: r.1, r.2)

/-- The messages `poke` sends for an action of the generator `id`. -/
def sendOf (s : TripleManager σ S P) (id : TripleId) :
    Action (S × P) → List (Participant × TripleMessage)
  | .sendMany data => s.participants.map fun p => message s id p data
  | .sendPrivate p data => [message s id p data]
  | _ => []

def completes (fuel : Nat) (g : TripleGenerator σ) : Bool :=
  (drive cs fuel g.protocol).any fun r => r.2.isReturn

def fails (fuel : Nat) (g : TripleGenerator σ) : Bool :=
  (drive cs fuel g.protocol).any fun r => r.2.isFailed

def waits (fuel : Nat) (g : TripleGenerator σ) : Bool :=
  (drive cs fuel g.protocol).any fun r => (r.2.kept g).isSome

/-- The messages `poke` sends for a generator: its protocol's sends, in order. -/
def emitted (fuel : Nat) (s : TripleManager σ S P) (e : Σ _ : TripleId, TripleGenerator σ) :
    List (Participant × TripleMessage) :=
  ((drive cs fuel e.2.protocol).map fun r => r.1.flatMap (sendOf s e.1)).getD []

/-- What the closure does with the generator `id` once its protocol has run. -/
def settle (s : TripleManager σ S P) (id : TripleId) (g : TripleGenerator σ) (acc : Retain S P) :
    List (Action (S × P)) × Stop σ (S × P) → Option (TripleGenerator σ) × Retain S P
  | (sends, stop) =>
    let acc := { acc with messages := acc.messages ++ sends.flatMap (sendOf s id) }
    match stop with
    | .wait p => (some { g with protocol := p }, acc)
    | .«return» output => (none, { acc with
        triples := acc.triples.insert id ⟨id, output.1, output.2⟩
        mine := if g.mine then acc.mine ++ [id] else acc.mine })
    | .failed e => (none, { acc with result := .error e })

/-- `retain` as the design has it: the generators in iteration order, each protocol poked on
its own until it stops, then settled. -/
def retainSpec (s : TripleManager σ S P) (fuel : Nat) :
    List (Σ _ : TripleId, TripleGenerator σ) → Retain S P →
      Option (AList (fun _ : TripleId => TripleGenerator σ) × Retain S P)
  | [], acc => some (∅, acc)
  | ⟨id, g⟩ :: rest, acc => do
    let (kept, acc) := settle s id g acc (← drive cs fuel g.protocol)
    let (generators, acc) ← retainSpec s fuel rest acc
    pure (kept.elim generators fun g => generators.insert id g, acc)

/-- `poke` as the design has it. -/
def pokeSpec (fuel : Nat) (s : TripleManager σ S P) :
    Option (Except ProtocolError (List (Participant × TripleMessage)) × TripleManager σ S P) := do
  let (generators, acc) ← retainSpec cs s fuel s.generators.entries ⟨[], .ok (), s.triples, s.mine⟩
  pure (acc.result.map fun _ => acc.messages,
    { s with generators, triples := acc.triples, mine := acc.mine })

variable {cs}

@[simp] lemma settle_kept (s : TripleManager σ S P) (id : TripleId) (g : TripleGenerator σ)
    (acc : Retain S P) (r : List (Action (S × P)) × Stop σ (S × P)) :
    (settle s id g acc r).1 = r.2.kept g := by
  obtain ⟨_, _ | _ | _⟩ := r <;> rfl

@[simp] lemma settle_messages (s : TripleManager σ S P) (id : TripleId) (g : TripleGenerator σ)
    (acc : Retain S P) (r : List (Action (S × P)) × Stop σ (S × P)) :
    (settle s id g acc r).2.messages = acc.messages ++ r.1.flatMap (sendOf s id) := by
  obtain ⟨_, _ | _ | _⟩ := r <;> rfl

@[simp] lemma settle_triples (s : TripleManager σ S P) (id : TripleId) (g : TripleGenerator σ)
    (acc : Retain S P) (r : List (Action (S × P)) × Stop σ (S × P)) :
    (settle s id g acc r).2.triples =
      match r.2 with
      | .«return» output => acc.triples.insert id ⟨id, output.1, output.2⟩
      | _ => acc.triples := by
  obtain ⟨_, _ | _ | _⟩ := r <;> rfl

@[simp] lemma settle_mine (s : TripleManager σ S P) (id : TripleId) (g : TripleGenerator σ)
    (acc : Retain S P) (r : List (Action (S × P)) × Stop σ (S × P)) :
    (settle s id g acc r).2.mine =
      if r.2.isReturn && g.mine then acc.mine ++ [id] else acc.mine := by
  obtain ⟨_, _ | _ | _⟩ := r <;> simp [settle, Stop.isReturn]

@[simp] lemma settle_result_isOk (s : TripleManager σ S P) (id : TripleId) (g : TripleGenerator σ)
    (acc : Retain S P) (r : List (Action (S × P)) × Stop σ (S × P)) :
    (settle s id g acc r).2.result.isOk = (acc.result.isOk && !r.2.isFailed) := by
  obtain ⟨_, _ | _ | _⟩ := r <;> simp [settle, Stop.isFailed, Except.isOk, Except.toBool]

lemma settle_result (s : TripleManager σ S P) (id : TripleId) (g : TripleGenerator σ)
    (acc : Retain S P) (r : List (Action (S × P)) × Stop σ (S × P)) :
    (settle s id g acc r).2.result = match r.2 with
      | .failed e => .error e
      | _ => acc.result := by
  obtain ⟨_, _ | _ | _⟩ := r <;> rfl

lemma settle_triples_lookup (s : TripleManager σ S P) (id k : TripleId) (g : TripleGenerator σ)
    (acc : Retain S P) (r : List (Action (S × P)) × Stop σ (S × P)) :
    (settle s id g acc r).2.triples.lookup k =
      if k = id then r.2.triple k (acc.triples.lookup k) else acc.triples.lookup k := by
  by_cases hk : k = id
  · subst hk
    obtain ⟨_, _ | _ | _⟩ := r <;> simp [Stop.triple, AList.lookup_insert]
  · obtain ⟨_, _ | _ | _⟩ := r <;> simp [hk, AList.lookup_insert_ne hk]

lemma settle_length_triples (s : TripleManager σ S P) {id : TripleId} (g : TripleGenerator σ)
    {acc : Retain S P} (hid : id ∉ acc.triples) (r : List (Action (S × P)) × Stop σ (S × P)) :
    (settle s id g acc r).2.triples.entries.length =
      acc.triples.entries.length + if r.2.isReturn then 1 else 0 := by
  obtain ⟨_, _ | _ | _⟩ := r
  · rfl
  · rw [settle_triples]; simp only; rw [AList.insert_entries_of_neg hid]; rfl
  · rfl

lemma settle_length_triples_le (s : TripleManager σ S P) (id : TripleId) (g : TripleGenerator σ)
    (acc : Retain S P) (r : List (Action (S × P)) × Stop σ (S × P)) :
    (settle s id g acc r).2.triples.entries.length ≤
      acc.triples.entries.length + if r.2.isReturn then 1 else 0 := by
  obtain ⟨_, _ | _ | _⟩ := r
  · exact Nat.le_refl _
  · exact length_insert_le _ _ _
  · exact Nat.le_refl _

lemma settle_cons (s : TripleManager σ S P) (id : TripleId) (g : TripleGenerator σ)
    (acc : Retain S P) (a : Action (S × P)) (p : σ)
    (r : List (Action (S × P)) × Stop σ (S × P)) :
    settle s id { g with protocol := p } { acc with messages := acc.messages ++ sendOf s id a } r =
      settle s id g acc (a :: r.1, r.2) := by
  obtain ⟨_, _ | _ | _⟩ := r <;> simp [settle]

/-- **The closure's loop is `settle` after `drive`.** -/
theorem pokeLoop_eq (s : TripleManager σ S P) (id : TripleId) (fuel : Nat) :
    ∀ (g : TripleGenerator σ) (acc : Retain S P),
      pokeLoop cs s id fuel g acc = (drive cs fuel g.protocol).map (settle s id g acc) := by
  induction fuel with
  | zero => intro g acc; rfl
  | succ n ih =>
    intro g acc
    rcases h : cs.poke g.protocol with e | ⟨_ | data | ⟨q, data⟩ | output, p⟩ <;>
      simp only [pokeLoop, drive, h]
    case ok.mk.sendMany =>
      rw [ih, Option.map_map]
      exact congrArg (Option.map · (drive cs n p))
        (funext (settle_cons s id g acc (.sendMany data) p))
    case ok.mk.sendPrivate =>
      rw [ih, Option.map_map]
      exact congrArg (Option.map · (drive cs n p))
        (funext (settle_cons s id g acc (.sendPrivate q data) p))
    -- a protocol that fails, waits or returns is settled at once
    all_goals simp [settle]

lemma retain_eq_retainSpec (s : TripleManager σ S P) (fuel : Nat) :
    ∀ (l : List (Σ _ : TripleId, TripleGenerator σ)) (acc : Retain S P),
      retain cs s fuel l acc = retainSpec cs s fuel l acc
  | [], _ => rfl
  | ⟨id, g⟩ :: rest, acc => by
    simp only [retain, retainSpec, pokeLoop_eq, retain_eq_retainSpec s fuel rest]
    cases drive cs fuel g.protocol <;> rfl

/-- **The code's `poke` is the design's.** Poking each protocol until it stops inside the
closure, collecting on the way, is poking every protocol on its own and settling it after. -/
theorem poke_eq_pokeSpec (fuel : Nat) (s : TripleManager σ S P) :
    poke cs fuel s = pokeSpec cs fuel s := by
  simp only [poke, pokeSpec, retain_eq_retainSpec]

/-! ### `retain`, generator by generator -/

lemma retain_cons_eq (s : TripleManager σ S P) (fuel : Nat) (id : TripleId)
    (g : TripleGenerator σ) (rest : List (Σ _ : TripleId, TripleGenerator σ)) (acc : Retain S P) :
    retain cs s fuel (⟨id, g⟩ :: rest) acc =
      (drive cs fuel g.protocol).bind fun r =>
        (retain cs s fuel rest (settle s id g acc r).2).map fun x =>
          ((r.2.kept g).elim x.1 fun g' => x.1.insert id g', x.2) := by
  cases hd : drive cs fuel g.protocol with
  | none => simp [retain, pokeLoop_eq, hd]
  | some r =>
    simp [retain, pokeLoop_eq, hd]
    rw [Option.map_eq_bind]
    rfl

variable {s : TripleManager σ S P} {fuel : Nat}

lemma retain_cons_some {id : TripleId} {g : TripleGenerator σ}
    {rest : List (Σ _ : TripleId, TripleGenerator σ)} {acc acc' : Retain S P}
    {gens : AList fun _ : TripleId => TripleGenerator σ}
    (h : retain cs s fuel (⟨id, g⟩ :: rest) acc = some (gens, acc')) :
    ∃ r gens', drive cs fuel g.protocol = some r ∧
      retain cs s fuel rest (settle s id g acc r).2 = some (gens', acc') ∧
      gens = (r.2.kept g).elim gens' fun g' => gens'.insert id g' := by
  rw [retain_cons_eq, Option.bind_eq_some] at h
  obtain ⟨r, hd, h⟩ := h
  obtain ⟨⟨gens', acc''⟩, hr, h⟩ := Option.map_eq_some'.1 h
  obtain ⟨rfl, rfl⟩ := Prod.ext_iff.1 h
  exact ⟨r, gens', hd, hr, rfl⟩

lemma retain_isSome : ∀ (l : List (Σ _ : TripleId, TripleGenerator σ)) (acc : Retain S P),
    (retain cs s fuel l acc).isSome ↔ ∀ e ∈ l, (drive cs fuel e.2.protocol).isSome
  | [], _ => by simp [retain]
  | ⟨id, g⟩ :: rest, acc => by
    rw [retain_cons_eq]
    cases hd : drive cs fuel g.protocol with
    | none => simp [hd]
    | some r => simp [hd, retain_isSome rest]

lemma retain_messages : ∀ {l : List (Σ _ : TripleId, TripleGenerator σ)} {acc acc' : Retain S P}
    {gens : AList fun _ : TripleId => TripleGenerator σ},
    retain cs s fuel l acc = some (gens, acc') →
      acc'.messages = acc.messages ++ l.flatMap (emitted cs fuel s)
  | [], _, _, _, h => by cases h; simp
  | ⟨id, g⟩ :: rest, acc, acc', gens, h => by
    obtain ⟨r, gens', hd, hr, -⟩ := retain_cons_some h
    simp [retain_messages hr, emitted, hd]

lemma retain_mine : ∀ {l : List (Σ _ : TripleId, TripleGenerator σ)} {acc acc' : Retain S P}
    {gens : AList fun _ : TripleId => TripleGenerator σ},
    retain cs s fuel l acc = some (gens, acc') →
      acc'.mine = acc.mine ++ (l.filter fun e => completes cs fuel e.2 && e.2.mine).map (·.1)
  | [], _, _, _, h => by cases h; simp
  | ⟨id, g⟩ :: rest, acc, acc', gens, h => by
    obtain ⟨r, gens', hd, hr, -⟩ := retain_cons_some h
    have hc : (completes cs fuel g && g.mine) = (r.2.isReturn && g.mine) := by
      simp [completes, hd]
    rw [retain_mine hr, settle_mine, List.filter_cons]
    simp only [hc]
    cases r.2.isReturn && g.mine <;> simp

lemma retain_result_isOk : ∀ {l : List (Σ _ : TripleId, TripleGenerator σ)} {acc acc' : Retain S P}
    {gens : AList fun _ : TripleId => TripleGenerator σ},
    retain cs s fuel l acc = some (gens, acc') →
      (acc'.result.isOk ↔ acc.result.isOk ∧ ∀ e ∈ l, fails cs fuel e.2 = false)
  | [], _, _, _, h => by cases h; simp
  | ⟨id, g⟩ :: rest, acc, acc', gens, h => by
    obtain ⟨r, gens', hd, hr, -⟩ := retain_cons_some h
    rw [retain_result_isOk hr, settle_result_isOk]
    simp [fails, hd, and_assoc]

lemma retain_result_last {e : ProtocolError} :
    ∀ {l : List (Σ _ : TripleId, TripleGenerator σ)} {acc acc' : Retain S P}
    {gens : AList fun _ : TripleId => TripleGenerator σ},
    retain cs s fuel l acc = some (gens, acc') → acc'.result = .error e →
      (acc.result = .error e ∧ ∀ x ∈ l, fails cs fuel x.2 = false) ∨
        ∃ pre x post sends, l = pre ++ x :: post ∧
          drive cs fuel x.2.protocol = some (sends, .failed e) ∧
          ∀ y ∈ post, fails cs fuel y.2 = false
  | [], _, _, _, h, he => by cases h; exact .inl ⟨he, fun _ h => absurd h (List.not_mem_nil _)⟩
  | ⟨id, g⟩ :: rest, acc, acc', gens, h, he => by
    obtain ⟨r, gens', hd, hr, -⟩ := retain_cons_some h
    rcases retain_result_last hr he with ⟨he, hrest⟩ | ⟨pre, x, post, sends, rfl, hx, hpost⟩
    · rw [settle_result] at he
      obtain ⟨sends, _ | _ | _⟩ := r
      case failed =>
        cases he
        exact .inr ⟨[], ⟨id, g⟩, rest, sends, rfl, hd, hrest⟩
      all_goals exact .inl ⟨he, List.forall_mem_cons.2 ⟨by simp [fails, hd, Stop.isFailed], hrest⟩⟩
    · exact .inr ⟨⟨id, g⟩ :: pre, x, post, sends, rfl, hx, hpost⟩

lemma lookup_elim_insert {gens : AList fun _ : TripleId => TripleGenerator σ} {id : TripleId}
    (hid : gens.lookup id = none) (o : Option (TripleGenerator σ)) (k : TripleId) :
    (o.elim gens fun g => gens.insert id g).lookup k = if k = id then o else gens.lookup k := by
  by_cases hk : k = id
  · subst hk
    cases o <;> simp [hid, AList.lookup_insert]
  · cases o <;> simp [hk, AList.lookup_insert_ne hk]

lemma length_elim_insert {gens : AList fun _ : TripleId => TripleGenerator σ} {id : TripleId}
    (hid : id ∉ gens) (o : Option (TripleGenerator σ)) :
    (o.elim gens fun g => gens.insert id g).entries.length =
      gens.entries.length + if o.isSome then 1 else 0 := by
  cases o with
  | none => rfl
  | some g => rw [Option.elim, AList.insert_entries_of_neg hid]; rfl

lemma retain_lookup_of_not_mem {k : TripleId} :
    ∀ {l : List (Σ _ : TripleId, TripleGenerator σ)} {acc acc' : Retain S P}
    {gens : AList fun _ : TripleId => TripleGenerator σ},
    retain cs s fuel l acc = some (gens, acc') → k ∉ l.keys →
      gens.lookup k = none ∧ acc'.triples.lookup k = acc.triples.lookup k
  | [], _, _, _, h, _ => by cases h; simp
  | ⟨id, g⟩ :: rest, acc, acc', gens, h, hk => by
    obtain ⟨r, gens', -, hr, rfl⟩ := retain_cons_some h
    simp only [List.keys_cons, List.mem_cons, not_or] at hk
    obtain ⟨hg, ht⟩ := retain_lookup_of_not_mem hr hk.2
    refine ⟨?_, by rw [ht, settle_triples_lookup, if_neg hk.1]⟩
    cases r.2.kept g <;> simp [hg, AList.lookup_insert_ne hk.1]

lemma retain_lookup_of_mem {k : TripleId} {G : TripleGenerator σ} :
    ∀ {l : List (Σ _ : TripleId, TripleGenerator σ)} {acc acc' : Retain S P}
    {gens : AList fun _ : TripleId => TripleGenerator σ},
    l.NodupKeys → retain cs s fuel l acc = some (gens, acc') → ⟨k, G⟩ ∈ l →
      ∃ r, drive cs fuel G.protocol = some r ∧ gens.lookup k = r.2.kept G ∧
        acc'.triples.lookup k = r.2.triple k (acc.triples.lookup k)
  | [], _, _, _, _, _, hm => by simp at hm
  | ⟨id, g⟩ :: rest, acc, acc', gens, hn, h, hm => by
    obtain ⟨r, gens', hd, hr, rfl⟩ := retain_cons_some h
    obtain ⟨hid, hn⟩ := List.nodupKeys_cons.1 hn
    obtain ⟨hg, ht⟩ := retain_lookup_of_not_mem hr hid
    rcases List.mem_cons.1 hm with he | hm
    · cases he
      refine ⟨r, hd, by rw [lookup_elim_insert hg, if_pos rfl], ?_⟩
      rw [ht, settle_triples_lookup, if_pos rfl]
    · have hk : k ≠ id := fun he => hid (he ▸ (List.mem_keys_of_mem hm : k ∈ rest.keys))
      obtain ⟨r', hd', hg', ht'⟩ := retain_lookup_of_mem hn hr hm
      refine ⟨r', hd', by rw [lookup_elim_insert hg, if_neg hk, hg'], ?_⟩
      rw [ht', settle_triples_lookup, if_neg hk]

lemma retain_length_generators :
    ∀ {l : List (Σ _ : TripleId, TripleGenerator σ)} {acc acc' : Retain S P}
    {gens : AList fun _ : TripleId => TripleGenerator σ},
    l.NodupKeys → retain cs s fuel l acc = some (gens, acc') →
      gens.entries.length = (l.filter fun e => waits cs fuel e.2).length
  | [], _, _, _, _, h => by cases h; rfl
  | ⟨id, g⟩ :: rest, acc, acc', gens, hn, h => by
    obtain ⟨r, gens', hd, hr, rfl⟩ := retain_cons_some h
    obtain ⟨hid, hn⟩ := List.nodupKeys_cons.1 hn
    have hg : id ∉ gens' := AList.lookup_eq_none.1 (retain_lookup_of_not_mem hr hid).1
    have hw : waits cs fuel g = (r.2.kept g).isSome := by simp [waits, hd]
    rw [length_elim_insert hg, retain_length_generators hn hr, List.filter_cons, hw]
    cases (r.2.kept g).isSome <;> simp

lemma retain_length_triples :
    ∀ {l : List (Σ _ : TripleId, TripleGenerator σ)} {acc acc' : Retain S P}
    {gens : AList fun _ : TripleId => TripleGenerator σ},
    l.NodupKeys → (∀ e ∈ l, e.1 ∉ acc.triples) → retain cs s fuel l acc = some (gens, acc') →
      acc'.triples.entries.length =
        acc.triples.entries.length + (l.filter fun e => completes cs fuel e.2).length
  | [], _, _, _, _, _, h => by cases h; rfl
  | ⟨id, g⟩ :: rest, acc, acc', gens, hn, hf, h => by
    obtain ⟨r, gens', hd, hr, -⟩ := retain_cons_some h
    obtain ⟨hid, hn⟩ := List.nodupKeys_cons.1 hn
    have hf' : ∀ e ∈ rest, e.1 ∉ (settle s id g acc r).2.triples := by
      intro e he
      have hne : e.1 ≠ id := fun h => hid (h ▸ (List.mem_keys_of_mem he : e.1 ∈ rest.keys))
      rw [← AList.lookup_eq_none, settle_triples_lookup, if_neg hne, AList.lookup_eq_none]
      exact hf e (List.mem_cons_of_mem _ he)
    have hc : completes cs fuel g = r.2.isReturn := by simp [completes, hd]
    rw [retain_length_triples hn hf' hr, settle_length_triples s g (hf _ (List.mem_cons_self _ _)),
      List.filter_cons, hc]
    cases r.2.isReturn with
    | false => simp
    | true => simp; omega

lemma retain_length_triples_le :
    ∀ {l : List (Σ _ : TripleId, TripleGenerator σ)} {acc acc' : Retain S P}
    {gens : AList fun _ : TripleId => TripleGenerator σ},
    retain cs s fuel l acc = some (gens, acc') →
      acc'.triples.entries.length ≤
        acc.triples.entries.length + (l.filter fun e => completes cs fuel e.2).length
  | [], _, _, _, h => by cases h; exact Nat.le_refl _
  | ⟨id, g⟩ :: rest, acc, acc', gens, h => by
    obtain ⟨r, gens', hd, hr, -⟩ := retain_cons_some h
    have hc : completes cs fuel g = r.2.isReturn := by simp [completes, hd]
    have h₁ := retain_length_triples_le hr
    have h₂ := settle_length_triples_le s id g acc r
    rw [List.filter_cons, hc]
    cases hret : r.2.isReturn with
    | false => simp only [hret, Bool.false_eq_true, if_false] at h₂ ⊢; omega
    | true => simp only [hret, if_true, List.length_cons] at h₂ ⊢; omega

lemma stop_cases {g : TripleGenerator σ} (hd : (drive cs fuel g.protocol).isSome) :
    completes cs fuel g = true ∧ fails cs fuel g = false ∧ waits cs fuel g = false ∨
      completes cs fuel g = false ∧ fails cs fuel g = true ∧ waits cs fuel g = false ∨
      completes cs fuel g = false ∧ fails cs fuel g = false ∧ waits cs fuel g = true := by
  obtain ⟨⟨_, _ | _ | _⟩, h⟩ := Option.isSome_iff_exists.1 hd <;>
    simp [completes, fails, waits, h, Stop.kept, Stop.isReturn, Stop.isFailed]

lemma length_filter_stops : ∀ {l : List (Σ _ : TripleId, TripleGenerator σ)},
    (∀ e ∈ l, (drive cs fuel e.2.protocol).isSome) →
      (l.filter fun e => completes cs fuel e.2).length +
          (l.filter fun e => fails cs fuel e.2).length +
        (l.filter fun e => waits cs fuel e.2).length = l.length
  | [], _ => rfl
  | e :: rest, hd => by
    have ih := length_filter_stops fun x hx => hd x (List.mem_cons_of_mem _ hx)
    rcases stop_cases (hd e (List.mem_cons_self _ _))
      with ⟨h₁, h₂, h₃⟩ | ⟨h₁, h₂, h₃⟩ | ⟨h₁, h₂, h₃⟩ <;>
      simp only [List.filter_cons, h₁, h₂, h₃, if_true, Bool.false_eq_true, if_false,
        List.length_cons] <;> omega

lemma retain_length_pool {l : List (Σ _ : TripleId, TripleGenerator σ)} {acc acc' : Retain S P}
    {gens : AList fun _ : TripleId => TripleGenerator σ} (hn : l.NodupKeys)
    (hf : ∀ e ∈ l, e.1 ∉ acc.triples) (h : retain cs s fuel l acc = some (gens, acc')) :
    acc'.triples.entries.length + gens.entries.length +
        (l.filter fun e => fails cs fuel e.2).length =
      acc.triples.entries.length + l.length := by
  have hd := (retain_isSome l acc).1 (by rw [h]; rfl)
  rw [retain_length_triples hn hf h, retain_length_generators hn h, ← length_filter_stops hd]
  omega

end TripleManager

end MpcNode
