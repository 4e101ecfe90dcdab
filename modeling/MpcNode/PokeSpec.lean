import MpcNode.Poke

/-!
What one `poke` does, for every state and every behaviour of the protocols.

Each old generator ends the poke in one of three ways, decided by its own protocol alone
(`drive`): it waits and stays, it returns and its output becomes the triple under its id,
or it fails and is dropped. Nothing else of the pool changes. The messages are the
translations of every generator's sends, generator after generator; they reach the caller
only if no protocol failed.
-/

namespace MpcNode.TripleManager

variable {σ S P : Type} {cs : CaitSith σ S P} {fuel : Nat} {s s' : TripleManager σ S P}
  {r : Except ProtocolError (List (Participant × TripleMessage))}

lemma poke_eq (fuel : Nat) (s : TripleManager σ S P) :
    poke cs fuel s = (retain cs s fuel s.generators.entries ⟨[], .ok (), s.triples, s.mine⟩).map
      fun x => (x.2.result.map fun _ => x.2.messages,
        { s with generators := x.1, triples := x.2.triples, mine := x.2.mine }) := by
  simp only [poke]
  cases retain cs s fuel _ _ <;> rfl

lemma poke_some (h : poke cs fuel s = some (r, s')) :
    ∃ gens acc, retain cs s fuel s.generators.entries ⟨[], .ok (), s.triples, s.mine⟩ =
        some (gens, acc) ∧ r = acc.result.map (fun _ => acc.messages) ∧
      s' = { s with generators := gens, triples := acc.triples, mine := acc.mine } := by
  obtain ⟨⟨gens, acc⟩, hr, h⟩ := Option.map_eq_some'.1 ((poke_eq fuel s).symm.trans h)
  obtain ⟨rfl, rfl⟩ := Prod.ext_iff.1 h
  exact ⟨gens, acc, hr, rfl, rfl⟩

lemma isOk_map {ε α β : Type} (x : Except ε α) (f : α → β) : (x.map f).isOk = x.isOk := by
  cases x <;> rfl

lemma forall_entries {m : AList fun _ : TripleId => TripleGenerator σ}
    {p : TripleId → TripleGenerator σ → Prop} :
    (∀ e ∈ m.entries, p e.1 e.2) ↔ ∀ g G, m.lookup g = some G → p g G :=
  ⟨fun h g G hg => h ⟨g, G⟩ (AList.mem_lookup_iff.1 hg),
    fun h e he => h e.1 e.2 (AList.mem_lookup_iff.2 he)⟩

/-! ### What `poke` conserves -/

lemma fails_of_completes {g : TripleGenerator σ} (h : completes cs fuel g = true) :
    fails cs fuel g = false := by
  rcases hd : drive cs fuel g.protocol with _ | ⟨_, _ | _ | _⟩ <;>
    simp_all [completes, fails, Stop.isReturn, Stop.isFailed]

/-- What `poke` leaves of the manager it started from, generator by generator. -/
structure Conserves (cs : CaitSith σ S P) (fuel : Nat) (s : TripleManager σ S P)
    (r : Except ProtocolError (List (Participant × TripleMessage))) (s' : TripleManager σ S P) :
    Prop where
  /-- An old generator stays, with its flag, exactly when its protocol waited; the triple
  under its id is its protocol's output if it returned, and is untouched otherwise. -/
  settled : ∀ g G, s.generators.lookup g = some G → ∃ sends stop,
    drive cs fuel G.protocol = some (sends, stop) ∧
      s'.generators.lookup g = stop.kept G ∧
        s'.triples.lookup g = stop.triple g (s.triples.lookup g)
  /-- Any other id gets no generator, and its triple is untouched. -/
  frame : ∀ k, k ∉ s.generators →
    s'.generators.lookup k = none ∧ s'.triples.lookup k = s.triples.lookup k
  /-- `mine` gains the ids of the local generators that returned, in iteration order. -/
  mine : s'.mine = s.mine ++
    (s.generators.entries.filter fun e => completes cs fuel e.2 && e.2.mine).map (·.1)
  /-- `poke` fails exactly when some protocol failed. -/
  error : r.isOk = false ↔ ∃ g G, s.generators.lookup g = some G ∧ fails cs fuel G = true
  /-- Without a failure, and with no generator's id already a triple, the pool only moves
  generators to triples. -/
  counts : r.isOk = true → (∀ g, g ∈ s.generators → g ∉ s.triples) →
    s'.potentialLen = s.potentialLen ∧
      s'.len = s.len + (s.generators.entries.filter fun e => completes cs fuel e.2).length ∧
      s'.myLen = s.myLen +
        (s.generators.entries.filter fun e => completes cs fuel e.2 && e.2.mine).length

lemma poke_settled (h : poke cs fuel s = some (r, s')) (g : TripleId) (G : TripleGenerator σ)
    (hg : s.generators.lookup g = some G) : ∃ sends stop,
      drive cs fuel G.protocol = some (sends, stop) ∧ s'.generators.lookup g = stop.kept G ∧
        s'.triples.lookup g = stop.triple g (s.triples.lookup g) := by
  obtain ⟨gens, acc, hr, -, rfl⟩ := poke_some h
  obtain ⟨⟨sends, stop⟩, hd, h1, h2⟩ :=
    retain_lookup_of_mem s.generators.nodupKeys hr (AList.mem_lookup_iff.1 hg)
  exact ⟨sends, stop, hd, h1, h2⟩

lemma poke_frame (h : poke cs fuel s = some (r, s')) (k : TripleId) (hk : k ∉ s.generators) :
    s'.generators.lookup k = none ∧ s'.triples.lookup k = s.triples.lookup k := by
  obtain ⟨gens, acc, hr, -, rfl⟩ := poke_some h
  exact retain_lookup_of_not_mem hr (AList.mem_keys.not.1 hk)

lemma poke_mine (h : poke cs fuel s = some (r, s')) : s'.mine = s.mine ++
    (s.generators.entries.filter fun e => completes cs fuel e.2 && e.2.mine).map (·.1) := by
  obtain ⟨gens, acc, hr, -, rfl⟩ := poke_some h
  exact retain_mine hr

lemma poke_error (h : poke cs fuel s = some (r, s')) :
    r.isOk = false ↔ ∃ g G, s.generators.lookup g = some G ∧ fails cs fuel G = true := by
  obtain ⟨gens, acc, hr, rfl, -⟩ := poke_some h
  rw [isOk_map, ← Bool.not_eq_true, (retain_result_isOk hr).trans (and_iff_right rfl),
    forall_entries (p := fun _ G => fails cs fuel G = false)]
  simp

lemma poke_counts (h : poke cs fuel s = some (r, s')) (hr' : r.isOk = true)
    (hfresh : ∀ g, g ∈ s.generators → g ∉ s.triples) :
    s'.potentialLen = s.potentialLen ∧
      s'.len = s.len + (s.generators.entries.filter fun e => completes cs fuel e.2).length ∧
      s'.myLen = s.myLen +
        (s.generators.entries.filter fun e => completes cs fuel e.2 && e.2.mine).length := by
  obtain ⟨gens, acc, hr, rfl, rfl⟩ := poke_some h
  have hn := s.generators.nodupKeys
  have hf : ∀ e ∈ s.generators.entries, e.1 ∉ s.triples :=
    fun e he => hfresh e.1 (AList.mem_keys.2 (List.mem_keys_of_mem he))
  have hall := ((retain_result_isOk hr).1 (by rwa [isOk_map] at hr')).2
  have hnone : (s.generators.entries.filter fun e => fails cs fuel e.2) = [] :=
    List.filter_eq_nil_iff.2 fun e he => by simp [hall e he]
  have hpool := retain_length_pool hn hf hr
  rw [hnone, List.length_nil, Nat.add_zero] at hpool
  exact ⟨hpool, retain_length_triples hn hf hr, by simp [myLen, retain_mine hr]⟩

theorem poke_conserves (h : poke cs fuel s = some (r, s')) : Conserves cs fuel s r s' :=
  ⟨poke_settled h, poke_frame h, poke_mine h, poke_error h, poke_counts h⟩

/-- Two generators among the participants `0` (this node) and `1`: the local `1` sends a
private message and returns, the foreign `2` broadcasts and waits. -/
def completeState : TripleManager (Script Unit Unit) Unit Unit :=
  { (new [⟨0⟩, ⟨1⟩] ⟨0⟩ 2 0 : TripleManager (Script Unit Unit) Unit Unit) with
    generators := ((∅ : AList _).insert 1
        ⟨[.ok (.sendPrivate ⟨1⟩ [7]), .ok (.«return» ((), ()))], true⟩).insert 2
      ⟨[.ok (.sendMany [8])], false⟩ }

theorem completeState_conserves :
    Conserves (Script.caitSith []) 2 completeState
      (.ok [(⟨0⟩, ⟨2, 0, ⟨0⟩, [8]⟩), (⟨1⟩, ⟨2, 0, ⟨0⟩, [8]⟩), (⟨1⟩, ⟨1, 0, ⟨0⟩, [7]⟩)])
      { completeState with
        generators := (∅ : AList _).insert 2 ⟨[], false⟩
        triples := (∅ : AList _).insert 1 ⟨1, (), ()⟩
        mine := [1] } :=
  poke_conserves rfl

/-! ### The messages -/

lemma id_of_mem_emitted {e : Σ _ : TripleId, TripleGenerator σ} {m : Participant × TripleMessage}
    (h : m ∈ emitted cs fuel s e) : m.2.id = e.1 := by
  cases hd : drive cs fuel e.2.protocol with
  | none => simp [emitted, hd] at h
  | some r =>
    simp only [emitted, hd, Option.map_some', Option.getD_some, List.mem_flatMap] at h
    obtain ⟨a, -, ha⟩ := h
    rcases a with _ | data | ⟨p, data⟩ | _ <;> simp only [sendOf, List.mem_map, List.mem_singleton,
      List.not_mem_nil] at ha
    · obtain ⟨p, -, rfl⟩ := ha
      rfl
    · rw [ha]
      rfl

lemma emitted_filter (e : Σ _ : TripleId, TripleGenerator σ) (g : TripleId) :
    (emitted cs fuel s e).filter (·.2.id == g) = if e.1 = g then emitted cs fuel s e else [] := by
  split_ifs with hg
  · exact List.filter_eq_self.2 fun m hm => by simp [id_of_mem_emitted hm, hg]
  · exact List.filter_eq_nil_iff.2 fun m hm => by simp [id_of_mem_emitted hm, hg]

lemma flatMap_ite_key {β : Type} (f : (Σ _ : TripleId, TripleGenerator σ) → List β) {g : TripleId}
    {G : TripleGenerator σ} : ∀ {l : List (Σ _ : TripleId, TripleGenerator σ)}, l.NodupKeys →
      ⟨g, G⟩ ∈ l → l.flatMap (fun e => if e.1 = g then f e else []) = f ⟨g, G⟩
  | [], _, h => by simp at h
  | e :: rest, hn, h => by
    obtain ⟨he, hn⟩ := List.nodupKeys_cons.1 hn
    rcases List.mem_cons.1 h with rfl | h
    · have hr : rest.flatMap (fun e => if e.1 = g then f e else []) = [] :=
        List.flatMap_eq_nil_iff.2 fun x hx =>
          if_neg fun hx' : x.1 = g => he (hx' ▸ (List.mem_keys_of_mem hx : x.1 ∈ rest.keys))
      simp [hr]
    · have hne : e.1 ≠ g := fun h' => he (h' ▸ (List.mem_keys_of_mem h : g ∈ rest.keys))
      simp [hne, flatMap_ite_key f hn h]

lemma poke_messages_eq {msgs : List (Participant × TripleMessage)}
    (h : poke cs fuel s = some (.ok msgs, s')) :
    msgs = s.generators.entries.flatMap (emitted cs fuel s) := by
  obtain ⟨gens, acc, hr, hm, -⟩ := poke_some h
  have hmsgs : msgs = acc.messages := by
    cases hres : acc.result <;> simp [hres, Except.map] at hm
    exact hm
  rw [hmsgs, retain_messages hr, List.nil_append]

lemma poke_messages_filter {msgs : List (Participant × TripleMessage)} {g : TripleId}
    {G : TripleGenerator σ} (h : poke cs fuel s = some (.ok msgs, s'))
    (hg : s.generators.lookup g = some G) :
    msgs.filter (·.2.id == g) = emitted cs fuel s ⟨g, G⟩ := by
  rw [poke_messages_eq h, List.filter_flatMap]
  simp only [emitted_filter]
  exact flatMap_ite_key _ s.generators.nodupKeys (AList.mem_lookup_iff.1 hg)

/-- **The messages of a poke.** When `poke` returns `Ok`, its messages are every generator's
sends, generator after generator in iteration order, each generator's in the order its
protocol emitted them, and nothing else: `sendOf` says what a send becomes. -/
theorem poke_messages {msgs : List (Participant × TripleMessage)}
    (h : poke cs fuel s = some (.ok msgs, s')) :
    msgs = s.generators.entries.flatMap (emitted cs fuel s) ∧
      ∀ g G, s.generators.lookup g = some G →
        msgs.filter (·.2.id == g) = emitted cs fuel s ⟨g, G⟩ :=
  ⟨poke_messages_eq h, fun _ _ => poke_messages_filter h⟩

theorem completeState_messages :
    [(⟨0⟩, ⟨2, 0, ⟨0⟩, [8]⟩), (⟨1⟩, ⟨2, 0, ⟨0⟩, [8]⟩), (⟨1⟩, ⟨1, 0, ⟨0⟩, [7]⟩)] =
      completeState.generators.entries.flatMap (emitted (Script.caitSith []) 2 completeState) :=
  have h : poke (Script.caitSith []) 2 completeState =
      some (.ok [(⟨0⟩, ⟨2, 0, ⟨0⟩, [8]⟩), (⟨1⟩, ⟨2, 0, ⟨0⟩, [8]⟩), (⟨1⟩, ⟨1, 0, ⟨0⟩, [7]⟩)],
        { completeState with
          generators := (∅ : AList _).insert 2 ⟨[], false⟩
          triples := (∅ : AList _).insert 1 ⟨1, (), ()⟩
          mine := [1] }) := rfl
  (poke_messages h).1

/-- One local generator whose protocol broadcasts, among the participants `0` (this node)
and `1`. -/
def broadcastState : TripleManager (Script Unit Unit) Unit Unit :=
  { (new [⟨0⟩, ⟨1⟩] ⟨0⟩ 2 0 : TripleManager (Script Unit Unit) Unit Unit) with
    generators := (∅ : AList _).insert 1 ⟨[.ok (.sendMany [7])], true⟩ }

/-- The broadcast goes to every participant, this node included. -/
theorem poke_broadcasts_to_me :
    (poke (Script.caitSith []) 2 broadcastState).map (·.1) =
      some (.ok [(broadcastState.me, ⟨1, 0, ⟨0⟩, [7]⟩), (⟨1⟩, ⟨1, 0, ⟨0⟩, [7]⟩)]) := rfl

/-! ### Isolation -/

lemma mem_completed_iff {m : AList fun _ : TripleId => TripleGenerator σ} {g : TripleId}
    {G : TripleGenerator σ} (p : (Σ _ : TripleId, TripleGenerator σ) → Bool)
    (hg : m.lookup g = some G) : g ∈ (m.entries.filter p).map (·.1) ↔ p ⟨g, G⟩ := by
  constructor
  · simp only [List.mem_map, List.mem_filter]
    rintro ⟨⟨k, G'⟩, ⟨he, hp⟩, rfl⟩
    have : G' = G := Option.some.inj ((AList.mem_lookup_iff.2 he).symm.trans hg)
    rwa [this] at hp
  · exact fun hp => List.mem_map.2 ⟨⟨g, G⟩, List.mem_filter.2 ⟨AList.mem_lookup_iff.1 hg, hp⟩, rfl⟩

lemma poke_key_eq {gens : AList fun _ : TripleId => TripleGenerator σ} {k : TripleId}
    {r₁ r₂ : Except ProtocolError (List (Participant × TripleMessage))}
    {s₁ s₂ : TripleManager σ S P} (hk : s.generators.lookup k = gens.lookup k)
    (h₁ : poke cs fuel s = some (r₁, s₁))
    (h₂ : poke cs fuel { s with generators := gens } = some (r₂, s₂)) :
    s₁.generators.lookup k = s₂.generators.lookup k ∧
      s₁.triples.lookup k = s₂.triples.lookup k := by
  cases hG : s.generators.lookup k with
  | none =>
    obtain ⟨hk₁, ht₁⟩ := poke_frame h₁ k (AList.lookup_eq_none.1 hG)
    obtain ⟨hk₂, ht₂⟩ := poke_frame h₂ k (AList.lookup_eq_none.1 (hk ▸ hG))
    exact ⟨hk₁.trans hk₂.symm, ht₁.trans ht₂.symm⟩
  | some G =>
    obtain ⟨sends, stop, hd, hk₁, ht₁⟩ := poke_settled h₁ k G hG
    obtain ⟨sends', stop', hd', hk₂, ht₂⟩ := poke_settled h₂ k G (hk ▸ hG)
    obtain ⟨rfl, rfl⟩ := Prod.ext_iff.1 (Option.some.inj (hd.symm.trans hd'))
    exact ⟨hk₁.trans hk₂.symm, ht₁.trans ht₂.symm⟩

/-- **Isolation, but for the messages.** Two managers that differ only in their other
generators: the generator `G` under `g` stays, becomes a triple and joins `mine` alike in
both, and its messages are the same whenever both return `Ok`. But a poke returns `Err`
exactly when some protocol failed, and then it returns no message at all. -/
theorem poke_isolates {gens : AList fun _ : TripleId => TripleGenerator σ} {g : TripleId}
    {G : TripleGenerator σ} {r₁ r₂ : Except ProtocolError (List (Participant × TripleMessage))}
    {s₁ s₂ : TripleManager σ S P}
    (hg₁ : s.generators.lookup g = some G) (hg₂ : gens.lookup g = some G)
    (h₁ : poke cs fuel s = some (r₁, s₁))
    (h₂ : poke cs fuel { s with generators := gens } = some (r₂, s₂)) :
    s₁.generators.lookup g = s₂.generators.lookup g ∧
      s₁.triples.lookup g = s₂.triples.lookup g ∧
      (g ∈ s₁.mine.drop s.mine.length ↔ g ∈ s₂.mine.drop s.mine.length) ∧
      (∀ m₁ m₂, r₁ = .ok m₁ → r₂ = .ok m₂ → m₁.filter (·.2.id == g) = m₂.filter (·.2.id == g)) ∧
      (r₁.isOk = false ↔ ∃ g' G', s.generators.lookup g' = some G' ∧ fails cs fuel G' = true) := by
  obtain ⟨hk, ht⟩ := poke_key_eq (hg₁.trans hg₂.symm) h₁ h₂
  refine ⟨hk, ht, ?_, ?_, poke_error h₁⟩
  · rw [poke_mine h₁, poke_mine h₂, List.drop_left, List.drop_left, mem_completed_iff _ hg₁,
      mem_completed_iff _ hg₂]
  · rintro m₁ m₂ rfl rfl
    rw [poke_messages_filter h₁ hg₁, poke_messages_filter h₂ hg₂]
    rfl

/-- Two generators: `1` sends a private message and then waits, and `2` fails or waits. -/
def isolationState (fail : Bool) : TripleManager (Script Unit Unit) Unit Unit :=
  { (new [⟨0⟩, ⟨1⟩] ⟨0⟩ 2 0 : TripleManager (Script Unit Unit) Unit Unit) with
    generators := ((∅ : AList _).insert 1 ⟨[.ok (.sendPrivate ⟨1⟩ [7])], false⟩).insert 2
      ⟨if fail then [.error ⟨"abort"⟩] else [], false⟩ }

/-- `isolationState false`, and the same manager with the generators of `isolationState true`,
after their pokes: `2` waited, or failed and was dropped. -/
def isolationPoked (fail : Bool) : TripleManager (Script Unit Unit) Unit Unit :=
  { isolationState false with
    generators := if fail then (∅ : AList _).insert 1 ⟨[], false⟩
      else ((∅ : AList _).insert 1 ⟨[], false⟩).insert 2 ⟨[], false⟩ }

theorem isolationState_isolates :
    (isolationPoked false).generators.lookup 1 = (isolationPoked true).generators.lookup 1 ∧
      (isolationPoked false).triples.lookup 1 = (isolationPoked true).triples.lookup 1 ∧
      ((1 : TripleId) ∈ (isolationPoked false).mine.drop (isolationState false).mine.length ↔
        (1 : TripleId) ∈ (isolationPoked true).mine.drop (isolationState false).mine.length) :=
  have hg₁ : (isolationState false).generators.lookup 1 =
      some ⟨[.ok (.sendPrivate ⟨1⟩ [7])], false⟩ := rfl
  have hg₂ : (isolationState true).generators.lookup 1 =
      some ⟨[.ok (.sendPrivate ⟨1⟩ [7])], false⟩ := rfl
  have h₁ : poke (Script.caitSith []) 2 (isolationState false) =
      some (.ok [(⟨1⟩, ⟨1, 0, ⟨0⟩, [7]⟩)], isolationPoked false) := rfl
  have h₂ : poke (Script.caitSith []) 2
      { isolationState false with generators := (isolationState true).generators } =
      some (.error ⟨"abort"⟩, isolationPoked true) := rfl
  have hi := poke_isolates hg₁ hg₂ h₁ h₂
  ⟨hi.1, hi.2.1, hi.2.2.1⟩

/-- The message of `1` reaches the caller when `2` waits, and is lost when `2` fails,
although the protocol of `1` has moved past its send. -/
theorem poke_drops_messages_on_failure :
    (poke (Script.caitSith []) 2 (isolationState false)).map (·.1) =
        some (.ok [(⟨1⟩, ⟨1, 0, ⟨0⟩, [7]⟩)]) ∧
      (poke (Script.caitSith []) 2 (isolationState true)).map (·.1) = some (.error ⟨"abort"⟩) ∧
      (poke (Script.caitSith []) 2 (isolationState true)).map
        (fun x => (x.2.generators.lookup 1).map (·.protocol)) = some (some []) :=
  ⟨rfl, rfl, rfl⟩

lemma poke_error_split {e : ProtocolError} (h : poke cs fuel s = some (.error e, s')) :
    ∃ pre x post sends, s.generators.entries = pre ++ x :: post ∧
      drive cs fuel x.2.protocol = some (sends, .failed e) ∧
      ∀ y ∈ post, fails cs fuel y.2 = false := by
  obtain ⟨gens, acc, hr, hm, -⟩ := poke_some h
  have he : acc.result = .error e := by
    cases hres : acc.result <;> simp [hres, Except.map] at hm
    rw [hm]
  rcases retain_result_last hr he with ⟨he, -⟩ | hsplit
  · cases he
  · exact hsplit

/-- **The error is the last one.** When `poke` returns `Err(e)`, `e` is the error of the last
protocol, in iteration order, that failed in this poke, since every failure overwrites
`result`; and that protocol's generator is dropped. -/
theorem poke_error_last {e : ProtocolError} (h : poke cs fuel s = some (.error e, s')) :
    ∃ pre g G post sends, s.generators.entries = pre ++ ⟨g, G⟩ :: post ∧
      drive cs fuel G.protocol = some (sends, .failed e) ∧
      (∀ x ∈ post, fails cs fuel x.2 = false) ∧ s'.generators.lookup g = none := by
  obtain ⟨pre, ⟨g, G⟩, post, sends, hl, hd, hpost⟩ := poke_error_split h
  have hg : s.generators.lookup g = some G := AList.mem_lookup_iff.2 (by simp [hl])
  obtain ⟨sends', stop, hd', hk, -⟩ := poke_settled h g G hg
  obtain ⟨-, rfl⟩ := Prod.ext_iff.1 (Option.some.inj (hd.symm.trans hd'))
  exact ⟨pre, g, G, post, sends, hl, hd, hpost, hk⟩

/-- Two protocols that fail at their first poke, `1` with `a` and `2` with `b`, in either of
the two orders of the map. -/
def twoFailures (order : Bool) : TripleManager (Script Unit Unit) Unit Unit :=
  { (new [⟨0⟩, ⟨1⟩] ⟨0⟩ 2 0 : TripleManager (Script Unit Unit) Unit Unit) with
    generators :=
      if order then
        ((∅ : AList _).insert 1 ⟨[.error ⟨"a"⟩], false⟩).insert 2 ⟨[.error ⟨"b"⟩], false⟩
      else ((∅ : AList _).insert 2 ⟨[.error ⟨"b"⟩], false⟩).insert 1 ⟨[.error ⟨"a"⟩], false⟩ }

theorem twoFailures_error_last :
    ∃ pre g G post sends, (twoFailures true).generators.entries = pre ++ ⟨g, G⟩ :: post ∧
      drive (Script.caitSith []) 2 G.protocol = some (sends, .failed ⟨"a"⟩) ∧
      (∀ x ∈ post, fails (Script.caitSith []) 2 x.2 = false) ∧
      ({ twoFailures true with generators := ∅ } :
        TripleManager (Script Unit Unit) Unit Unit).generators.lookup g = none :=
  have h : poke (Script.caitSith []) 2 (twoFailures true) =
      some (.error ⟨"a"⟩, { twoFailures true with generators := ∅ }) := rfl
  poke_error_last h

/-- **Only failures lose triples.** With no generator's id already a triple, whatever `poke`
returns, `potential_len` drops by exactly the number of protocols that failed in it: every
other protocol stays a generator or becomes a triple. -/
theorem poke_potentialLen_fails (h : poke cs fuel s = some (r, s'))
    (hfresh : ∀ g, g ∈ s.generators → g ∉ s.triples) :
    s'.potentialLen + (s.generators.entries.filter fun e => fails cs fuel e.2).length =
      s.potentialLen := by
  obtain ⟨gens, acc, hr, -, rfl⟩ := poke_some h
  exact retain_length_pool s.generators.nodupKeys
    (fun e he => hfresh e.1 (AList.mem_keys.2 (List.mem_keys_of_mem he))) hr

theorem isolationState_potentialLen :
    ({ isolationState true with generators := (∅ : AList _).insert 1 ⟨[], false⟩ } :
        TripleManager (Script Unit Unit) Unit Unit).potentialLen + 1 =
      (isolationState true).potentialLen :=
  have h : poke (Script.caitSith []) 2 (isolationState true) =
      some (.error ⟨"abort"⟩,
        { isolationState true with generators := (∅ : AList _).insert 1 ⟨[], false⟩ }) := rfl
  poke_potentialLen_fails h fun g _ hg => absurd hg (AList.not_mem_empty g)

lemma poke_potentialLen_le (h : poke cs fuel s = some (r, s')) :
    s'.potentialLen ≤ s.potentialLen := by
  obtain ⟨gens, acc, hr, -, rfl⟩ := poke_some h
  have ht := retain_length_triples_le hr
  have hg := retain_length_generators s.generators.nodupKeys hr
  have hn := length_filter_stops ((retain_isSome _ _).1 (by rw [hr]; rfl))
  dsimp only [potentialLen] at ht ⊢
  omega

/-! ### Iteration order -/

lemma poke_error_of_single {y : Σ _ : TripleId, TripleGenerator σ} {e : ProtocolError}
    (hy : (s.generators.entries.filter fun e => fails cs fuel e.2) = [y])
    (h : poke cs fuel s = some (.error e, s')) :
    ∃ sends, drive cs fuel y.2.protocol = some (sends, .failed e) := by
  obtain ⟨pre, x, post, sends, hl, hd, -⟩ := poke_error_split h
  have hx : x ∈ s.generators.entries.filter fun e => fails cs fuel e.2 :=
    List.mem_filter.2 ⟨by simp [hl], by simp [fails, hd, Stop.isFailed]⟩
  rw [hy, List.mem_singleton] at hx
  exact ⟨sends, hx ▸ hd⟩

/-- **The iteration order does not matter**, but for the order of `mine` and of the messages,
and for which error is returned when several protocols fail: two managers whose generators
are one map listed in two orders poke to the same generators and triples, with the same
outcome, to the same `mine` and messages up to order, and to the same error when exactly
one protocol fails. -/
theorem poke_perm {gens : AList fun _ : TripleId => TripleGenerator σ}
    {r₁ r₂ : Except ProtocolError (List (Participant × TripleMessage))}
    {s₁ s₂ : TripleManager σ S P} (hp : s.generators.entries.Perm gens.entries)
    (h₁ : poke cs fuel s = some (r₁, s₁))
    (h₂ : poke cs fuel { s with generators := gens } = some (r₂, s₂)) :
    (∀ k, s₁.generators.lookup k = s₂.generators.lookup k) ∧
      (∀ k, s₁.triples.lookup k = s₂.triples.lookup k) ∧ r₁.isOk = r₂.isOk ∧
      s₁.mine.Perm s₂.mine ∧ (∀ m₁ m₂, r₁ = .ok m₁ → r₂ = .ok m₂ → m₁.Perm m₂) ∧
      ∀ e₁ e₂, r₁ = .error e₁ → r₂ = .error e₂ →
        (s.generators.entries.filter fun e => fails cs fuel e.2).length = 1 → e₁ = e₂ := by
  refine ⟨fun k => (poke_key_eq (AList.perm_lookup hp) h₁ h₂).1,
    fun k => (poke_key_eq (AList.perm_lookup hp) h₁ h₂).2, ?_, ?_, ?_, ?_⟩
  · rw [Bool.eq_iff_iff, ← Bool.not_eq_false, ← Bool.not_eq_false r₂.isOk, poke_error h₁,
      poke_error h₂]
    simp only [AList.perm_lookup hp]
  · rw [poke_mine h₁, poke_mine h₂]
    exact ((hp.filter _).map _).append_left _
  · rintro m₁ m₂ rfl rfl
    rw [poke_messages_eq h₁, poke_messages_eq h₂]
    exact hp.flatMap_right _
  · rintro e₁ e₂ rfl rfl hone
    obtain ⟨y, hy⟩ := List.length_eq_one.1 hone
    have hf := hp.filter fun e => fails cs fuel e.2
    rw [hy] at hf
    obtain ⟨_, hd₁⟩ := poke_error_of_single hy h₁
    obtain ⟨_, hd₂⟩ := poke_error_of_single (List.perm_singleton.1 hf.symm) h₂
    exact Stop.failed.inj (Prod.ext_iff.1 (Option.some.inj (hd₁.symm.trans hd₂))).2

/-- Two local protocols that return, `1` after a private message and `2` after a broadcast, in
either of the two orders of the map. -/
def bothReturn (order : Bool) : TripleManager (Script Unit Unit) Unit Unit :=
  { (new [⟨0⟩, ⟨1⟩] ⟨0⟩ 2 0 : TripleManager (Script Unit Unit) Unit Unit) with
    generators :=
      if order then
        ((∅ : AList _).insert 1 ⟨[.ok (.sendPrivate ⟨1⟩ [7]), .ok (.«return» ((), ()))], true⟩).insert
          2 ⟨[.ok (.sendMany [8]), .ok (.«return» ((), ()))], true⟩
      else
        ((∅ : AList _).insert 2 ⟨[.ok (.sendMany [8]), .ok (.«return» ((), ()))], true⟩).insert
          1 ⟨[.ok (.sendPrivate ⟨1⟩ [7]), .ok (.«return» ((), ()))], true⟩ }

/-- `bothReturn order` after its poke: the triples stored, and `mine`, in iteration order. -/
def bothReturned (order : Bool) : TripleManager (Script Unit Unit) Unit Unit :=
  { (new [⟨0⟩, ⟨1⟩] ⟨0⟩ 2 0 : TripleManager (Script Unit Unit) Unit Unit) with
    triples :=
      if order then ((∅ : AList _).insert 2 ⟨2, (), ()⟩).insert 1 ⟨1, (), ()⟩
      else ((∅ : AList _).insert 1 ⟨1, (), ()⟩).insert 2 ⟨2, (), ()⟩
    mine := if order then [2, 1] else [1, 2] }

theorem bothReturn_perm :
    (∀ k, (bothReturned true).triples.lookup k = (bothReturned false).triples.lookup k) ∧
      (bothReturned true).mine.Perm (bothReturned false).mine ∧
      ([(⟨0⟩, ⟨2, 0, ⟨0⟩, [8]⟩), (⟨1⟩, ⟨2, 0, ⟨0⟩, [8]⟩), (⟨1⟩, ⟨1, 0, ⟨0⟩, [7]⟩)] :
        List (Participant × TripleMessage)).Perm
          [(⟨1⟩, ⟨1, 0, ⟨0⟩, [7]⟩), (⟨0⟩, ⟨2, 0, ⟨0⟩, [8]⟩), (⟨1⟩, ⟨2, 0, ⟨0⟩, [8]⟩)] :=
  have hp : (bothReturn true).generators.entries.Perm (bothReturn false).generators.entries :=
    List.Perm.swap _ _ _
  have h₁ : poke (Script.caitSith []) 2 (bothReturn true) =
      some (.ok [(⟨0⟩, ⟨2, 0, ⟨0⟩, [8]⟩), (⟨1⟩, ⟨2, 0, ⟨0⟩, [8]⟩), (⟨1⟩, ⟨1, 0, ⟨0⟩, [7]⟩)],
        bothReturned true) := rfl
  have h₂ : poke (Script.caitSith []) 2
      { bothReturn true with generators := (bothReturn false).generators } =
      some (.ok [(⟨1⟩, ⟨1, 0, ⟨0⟩, [7]⟩), (⟨0⟩, ⟨2, 0, ⟨0⟩, [8]⟩), (⟨1⟩, ⟨2, 0, ⟨0⟩, [8]⟩)],
        bothReturned false) := rfl
  have hq := poke_perm hp h₁ h₂
  ⟨hq.2.1, hq.2.2.2.1, hq.2.2.2.2.1 _ _ rfl rfl⟩

/-- With two failures, the error returned depends on the order. -/
example :
    (poke (Script.caitSith []) 2 (twoFailures true)).map (·.1) = some (.error ⟨"a"⟩) ∧
      (poke (Script.caitSith []) 2 (twoFailures false)).map (·.1) = some (.error ⟨"b"⟩) :=
  ⟨rfl, rfl⟩

/-! ### Fuel -/

lemma drive_add : ∀ (n k : Nat) (p : σ) (x : List (Action (S × P)) × Stop σ (S × P)),
    drive cs n p = some x → drive cs (n + k) p = some x
  | 0, _, _, _, h => by cases h
  | n + 1, k, p, x, h => by
    rw [Nat.add_right_comm]
    simp only [drive] at h ⊢
    rcases hp : cs.poke p with e | ⟨_ | d | ⟨q, d⟩ | o, p'⟩ <;> simp only [hp] at h ⊢
    all_goals first
      | exact h
      | obtain ⟨y, hy, rfl⟩ := Option.map_eq_some'.1 h
        rw [drive_add n k p' y hy]
        rfl

lemma retain_add (n k : Nat) : ∀ (l : List (Σ _ : TripleId, TripleGenerator σ)) (acc : Retain S P)
    (x : AList (fun _ : TripleId => TripleGenerator σ) × Retain S P),
    retain cs s n l acc = some x → retain cs s (n + k) l acc = some x
  | [], _, _, h => h
  | ⟨id, g⟩ :: rest, acc, x, h => by
    rw [retain_cons_eq] at h ⊢
    obtain ⟨r, hd, h⟩ := Option.bind_eq_some.1 h
    obtain ⟨y, hy, rfl⟩ := Option.map_eq_some'.1 h
    simp [drive_add n k _ r hd, retain_add n k rest _ y hy]

lemma poke_add (k : Nat) {x} (h : poke cs fuel s = some x) : poke cs (fuel + k) s = some x := by
  rw [poke_eq] at h ⊢
  obtain ⟨y, hy, rfl⟩ := Option.map_eq_some'.1 h
  rw [retain_add fuel k _ _ y hy]
  rfl

/-- **When `poke` returns.** It does exactly when every protocol stops within `fuel`
pokes. -/
theorem poke_isSome (fuel : Nat) (s : TripleManager σ S P) :
    (poke cs fuel s).isSome ↔
      ∀ g G, s.generators.lookup g = some G → (drive cs fuel G.protocol).isSome := by
  rw [← forall_entries (p := fun _ G => (drive cs fuel G.protocol).isSome), ← retain_isSome,
    poke_eq, Option.isSome_map']

/-! ### Nothing is left to do -/

lemma drive_wait : ∀ {n : Nat} {p q : σ} {sends : List (Action (S × P))},
    drive cs n p = some (sends, .wait q) → ∃ p', cs.poke p' = .ok (.wait, q)
  | 0, _, _, _, h => by cases h
  | n + 1, p, q, sends, h => by
    simp only [drive] at h
    rcases hp : cs.poke p with e | ⟨_ | d | ⟨r, d⟩ | o, p'⟩ <;> simp only [hp] at h
    case ok.mk.wait =>
      cases h
      exact ⟨p, hp⟩
    case ok.mk.sendMany | ok.mk.sendPrivate =>
      obtain ⟨⟨_, _⟩, hy, hx⟩ := Option.map_eq_some'.1 h
      cases hx
      exact drive_wait hy
    all_goals cases h

lemma retain_waiting (s : TripleManager σ S P) (n : Nat) :
    ∀ {l : List (Σ _ : TripleId, TripleGenerator σ)} (acc : Retain S P), l.NodupKeys →
      (∀ e ∈ l, cs.poke e.2.protocol = .ok (.wait, e.2.protocol)) →
      ∃ gens, retain cs s (n + 1) l acc = some (gens, acc) ∧ gens.entries = l
  | [], _, _, _ => ⟨∅, rfl, rfl⟩
  | ⟨id, g⟩ :: rest, acc, hn, hw => by
    obtain ⟨hid, hn⟩ := List.nodupKeys_cons.1 hn
    obtain ⟨gens, hr, he⟩ := retain_waiting s n acc hn fun e he => hw e (List.mem_cons_of_mem _ he)
    have hg : id ∉ gens := by rw [AList.mem_keys, AList.keys, he]; exact hid
    have hp : cs.poke g.protocol = .ok (.wait, g.protocol) := hw _ (List.mem_cons_self _ _)
    refine ⟨gens.insert id g, ?_, by rw [AList.insert_entries_of_neg hg, he]⟩
    simp [retain, pokeLoop, hp, hr]

lemma poke_kept_waiting (hwait : ∀ p q, cs.poke p = .ok (.wait, q) → cs.poke q = .ok (.wait, q))
    (h : poke cs fuel s = some (r, s')) :
    ∀ e ∈ s'.generators.entries, cs.poke e.2.protocol = .ok (.wait, e.2.protocol) := by
  rintro ⟨k, G'⟩ he
  have hk : s'.generators.lookup k = some G' := AList.mem_lookup_iff.2 he
  by_cases hg : k ∈ s.generators
  · obtain ⟨G, hG⟩ := exists_lookup_of_mem hg
    obtain ⟨sends, stop, hd, hkept, -⟩ := poke_settled h k G hG
    rw [hk] at hkept
    cases stop with
    | wait q =>
      cases hkept
      obtain ⟨p, hp⟩ := drive_wait hd
      exact hwait p q hp
    | «return» _ => cases hkept
    | failed _ => cases hkept
  · rw [(poke_frame h k hg).1] at hk
    cases hk

/-- **Nothing is left to do after a poke.** If a waiting protocol keeps waiting when poked
again with no new message, then right after any poke that returns, another poke sends
nothing and changes nothing: whatever the messages of the first, the manager cannot progress
until a protocol it hands out receives a message. -/
theorem poke_poke (hwait : ∀ p q, cs.poke p = .ok (.wait, q) → cs.poke q = .ok (.wait, q))
    (h : poke cs fuel s = some (r, s')) (n : Nat) : poke cs (n + 1) s' = some (.ok [], s') := by
  obtain ⟨gens, hr, he⟩ := retain_waiting s' n ⟨[], .ok (), s'.triples, s'.mine⟩
    s'.generators.nodupKeys (poke_kept_waiting hwait h)
  obtain rfl : gens = s'.generators := AList.ext he
  rw [poke_eq, hr]
  rfl

/-- cait-sith with scripted protocols that, once they wait, wait for good. -/
def quiet : CaitSith (Script Unit Unit) Unit Unit :=
  ⟨fun _ _ _ => .ok [], fun p =>
    match Script.poke p with
    | .ok (.wait, _) => .ok (.wait, [])
    | r => r⟩

lemma quiet_waits (p q : Script Unit Unit) (h : quiet.poke p = .ok (.wait, q)) :
    quiet.poke q = .ok (.wait, q) := by
  have hq : q = [] := by
    simp only [quiet] at h
    split at h
    · cases h
      rfl
    · rename_i hne
      exact absurd h (hne _)
  subst hq
  rfl

theorem completeState_poke_poke :
    poke quiet (0 + 1) { completeState with
        generators := (∅ : AList _).insert 2 ⟨[], false⟩
        triples := (∅ : AList _).insert 1 ⟨1, (), ()⟩
        mine := [1] } =
      some (.ok [], { completeState with
        generators := (∅ : AList _).insert 2 ⟨[], false⟩
        triples := (∅ : AList _).insert 1 ⟨1, (), ()⟩
        mine := [1] }) :=
  have h : poke quiet 2 completeState =
      some (.ok [(⟨0⟩, ⟨2, 0, ⟨0⟩, [8]⟩), (⟨1⟩, ⟨2, 0, ⟨0⟩, [8]⟩), (⟨1⟩, ⟨1, 0, ⟨0⟩, [7]⟩)],
        { completeState with
          generators := (∅ : AList _).insert 2 ⟨[], false⟩
          triples := (∅ : AList _).insert 1 ⟨1, (), ()⟩
          mine := [1] }) := rfl
  poke_poke quiet_waits h 0

end MpcNode.TripleManager
