import SshTunnel.Proofs.Resolution.Protocol

/-!
# The protocol leaves no choice

At most one event can follow in a phase (`Moves.unique`), none follows in a phase in which a
resolution ends, and an end comes to one result. So from its start a resolution has one complete run
only (`Runs.unique`). In the chain of methods the place of an offer is told by the offers before it.
-/

namespace SshTunnel

namespace AuthMethod

/-! ## Places in a chain -/

/-- Of two places in a chain, one comes before the other if they are not the same. -/
theorem place_cases {before before' after after' : List AuthMethod} {m m' : AuthMethod}
    (h : before ++ m :: after = before' ++ m' :: after') :
    (before = before' ∧ m = m') ∨ (∃ rest, before' = before ++ m :: rest) ∨
      ∃ rest, before = before' ++ m' :: rest := by
  rcases List.append_eq_append_iff.1 h with ⟨rest, hbefore, hafter⟩ | ⟨rest, hbefore, hafter⟩
  · cases rest with
    | nil =>
        obtain ⟨rfl, -⟩ := List.cons.inj hafter
        exact .inl ⟨by simpa using hbefore.symm, rfl⟩
    | cons x rest =>
        obtain ⟨rfl, -⟩ := List.cons.inj hafter
        exact .inr (.inl ⟨rest, hbefore⟩)
  · cases rest with
    | nil =>
        obtain ⟨rfl, -⟩ := List.cons.inj hafter
        exact .inl ⟨by simpa using hbefore, rfl⟩
    | cons x rest =>
        obtain ⟨rfl, -⟩ := List.cons.inj hafter
        exact .inr (.inr ⟨rest, hbefore⟩)

theorem allOffers_append_ne {user : String} {before rest : List AuthMethod} {m : AuthMethod}
    {made left : List Offer} {offer : Offer} (hoffers : m.offers user = made ++ offer :: left)
    (more : List Offer) :
    allOffers user before ++ made ≠ allOffers user (before ++ m :: rest) ++ more := by
  intro h
  have hlength := congrArg List.length h
  simp [allOffers, hoffers] at hlength

theorem place_of_not_ready {server : Server} {user : String}
    {before before' after after' : List AuthMethod} {m m' : AuthMethod}
    (h : before ++ m :: after = before' ++ m' :: after')
    (hready : AllReady server user before) (hready' : AllReady server user before')
    (hm : ¬ m.Ready server (allOffers user before))
    (hm' : ¬ m'.Ready server (allOffers user before')) : before = before' ∧ m = m' := by
  rcases place_cases h with hsame | ⟨rest, rfl⟩ | ⟨rest, rfl⟩
  · exact hsame
  · exact absurd (hready' before m rest rfl) hm
  · exact absurd (hready before' m' rest rfl) hm'

theorem allOffers_append_ne_of_not_ready {server : Server} {user : String}
    {before before' after after' : List AuthMethod} {m m' : AuthMethod}
    (h : before ++ m :: after = before' ++ m' :: after')
    (hready : AllReady server user (before ++ [m]))
    (hm' : ¬ m'.Ready server (allOffers user before')) {made left : List Offer} {offer : Offer}
    (hoffers : m.offers user = made ++ offer :: left) :
    allOffers user before ++ made ≠ allOffers user before' := by
  rcases place_cases h with ⟨rfl, rfl⟩ | ⟨rest, rfl⟩ | ⟨rest, rfl⟩
  · exact absurd (hready before m [] rfl) hm'
  · simpa using allOffers_append_ne hoffers []
  · exact absurd (hready before' m' (rest ++ [m]) (by simp)) hm'

end AuthMethod

section Unique

variable {dialer : Dialer} {plan : Plan} {timeout : Duration}

theorem Meets.unique {server server' : Server} (h : Meets dialer plan timeout server)
    (h' : Meets dialer plan timeout server') : server = server' := by
  rw [Meets, h] at h'
  simpa using h'

theorem Moves.unique {phase next next' : Phase} {event event' : Event}
    (move : Moves dialer plan timeout phase event next)
    (move' : Moves dialer plan timeout phase event' next') : event = event' ∧ next = next' := by
  cases move with
  | dial =>
      cases move' with
      | dial => exact ⟨rfl, rfl⟩
  | accept meets time trusts =>
      cases move' with
      | accept meets' time' trusts' =>
          obtain rfl := meets.unique meets'
          exact ⟨rfl, rfl⟩
      | refuse meets' time' distrusts =>
          obtain rfl := meets.unique meets'
          exact absurd trusts distrusts
  | refuse meets time distrusts =>
      cases move' with
      | accept meets' time' trusts =>
          obtain rfl := meets.unique meets'
          exact absurd trusts distrusts
      | refuse meets' time' distrusts' =>
          obtain rfl := meets.unique meets'
          exact ⟨rfl, rfl⟩
  | offer exchange methods ready offers place =>
      cases move' with
      | offer exchange' methods' ready' offers' place' =>
          rw [place] at place'
          rcases AuthMethod.place_cases (methods.symm.trans methods') with
            ⟨rfl, rfl⟩ | ⟨rest, rfl⟩ | ⟨rest, rfl⟩
          · obtain rfl := List.append_cancel_left place'
            obtain ⟨rfl, -⟩ := List.cons.inj (List.append_cancel_left (offers.symm.trans offers'))
            exact ⟨rfl, rfl⟩
          · exact absurd place' (AuthMethod.allOffers_append_ne offers _)
          · exact absurd place'.symm (AuthMethod.allOffers_append_ne offers' _)
  | openSocket opens =>
      cases move' with
      | openSocket _ => exact ⟨rfl, rfl⟩
      | failToOpen opens' =>
          rw [opens] at opens'
          simp at opens'
  | failToOpen opens =>
      cases move' with
      | openSocket opens' =>
          rw [opens] at opens'
          simp at opens'
      | failToOpen opens' =>
          rw [opens] at opens'
          obtain rfl := Except.error.inj opens'
          exact ⟨rfl, rfl⟩
  | disconnect =>
      cases move' with
      | disconnect => exact ⟨rfl, rfl⟩

theorem not_ready_of_disagreement {server : Server} {history : List Offer} {m : AuthMethod}
    {reason : String} (needs : m.needsAgreement = true)
    (agreement : server.agreement history = .error reason) : ¬ m.Ready server history := by
  rintro ⟨-, hready⟩
  rw [hready needs] at agreement
  simp at agreement

theorem not_ready_of_hangs (server : Server) (history : List Offer) :
    ¬ (AuthMethod.agent .hangs).Ready server history :=
  fun h => h.1 rfl

theorem Ends.not_moves {phase next : Phase} {result : Except Error Stream} {event : Event}
    (ends : Ends dialer plan timeout phase result) :
    ¬ Moves dialer plan timeout phase event next := by
  intro move
  cases ends with
  | dialFailed dial =>
      cases move with
      | accept meets _ _ => simp [Meets, dial] at meets
      | refuse meets _ _ => simp [Meets, dial] at meets
  | late dial time =>
      cases move with
      | accept _ time' _ => simp [time] at time'
      | refuse _ time' _ => simp [time] at time'
  | silent dial time =>
      cases move with
      | accept meets _ _ => simp [Meets, dial] at meets
      | refuse meets _ _ => simp [Meets, dial] at meets
  | noServer dial time =>
      cases move with
      | accept meets _ _ => simp [Meets, dial] at meets
      | refuse meets _ _ => simp [Meets, dial] at meets
  | untrusted => cases move
  | exchange exchange =>
      cases move with
      | offer exchange' _ _ _ _ => simp [exchange] at exchange'
  | disagreement _ methods _ place needs agreement =>
      cases move with
      | offer _ methods' ready' offers place' =>
          rw [place] at agreement place'
          exact AuthMethod.allOffers_append_ne_of_not_ready (methods'.symm.trans methods) ready'
            (not_ready_of_disagreement needs agreement) offers place'.symm
  | agentHangs _ methods _ place =>
      cases move with
      | offer _ methods' ready' offers place' =>
          rw [place] at place'
          exact AuthMethod.allOffers_append_ne_of_not_ready (methods'.symm.trans methods) ready'
            (not_ready_of_hangs _ _) offers place'.symm
  | exhausted _ _ place =>
      cases move with
      | offer _ methods' _ offers place' =>
          rw [place, methods'] at place'
          exact AuthMethod.allOffers_append_ne offers [] (by simpa using place'.symm)
  | broken => cases move
  | unanswered => cases move
  | stream => cases move
  | ended => cases move

theorem Ends.eq_of_dialed {result result' : Except Error Stream}
    (ends : Ends dialer plan timeout .dialed result)
    (ends' : Ends dialer plan timeout .dialed result') : result = result' := by
  have hresult : ∀ {r : Except Error Stream}, Ends dialer plan timeout .dialed r →
      r = match dialer plan.route plan.target timeout with
        | .error e => .error e
        | .ok (.broken reason) =>
            .error (if timeout.isZero then .handshakeTimeout timeout else .handshake reason)
        | .ok _ => .error (.handshakeTimeout timeout) := by
    intro r h
    cases h with
    | dialFailed dial => rw [dial]
    | late dial time => rw [dial]; cases ‹Peer› <;> simp [time]
    | silent dial time => rw [dial]
    | noServer dial time => rw [dial]; simp [time]
  rw [hresult ends, hresult ends']

/-- A method that disagrees and an agent that hangs cannot both be the first that is not ready. -/
theorem not_disagreement_and_hangs {server : Server} {before before' after after' : List AuthMethod}
    {m : AuthMethod} {reason : String} (methods : plan.auth = before ++ m :: after)
    (methods' : plan.auth = before' ++ .agent .hangs :: after')
    (ready : AuthMethod.AllReady server plan.user before)
    (ready' : AuthMethod.AllReady server plan.user before') (needs : m.needsAgreement = true) :
    server.agreement (AuthMethod.allOffers plan.user before) ≠ .error reason := by
  intro agreement
  obtain ⟨-, rfl⟩ := AuthMethod.place_of_not_ready (methods.symm.trans methods') ready ready'
    (not_ready_of_disagreement needs agreement) (not_ready_of_hangs _ _)
  simp [AuthMethod.needsAgreement] at needs

/-- What a resolution comes to where offering ends follows from the first method that is not
ready. -/
theorem Ends.eq_of_trusted {server : Server} {history : List Offer}
    {result result' : Except Error Stream}
    (ends : Ends dialer plan timeout (.trusted server history) result)
    (ends' : Ends dialer plan timeout (.trusted server history) result') : result = result' := by
  cases ends with
  | exchange exchange =>
      cases ends' with
      | exchange exchange' =>
          rw [exchange] at exchange'
          obtain rfl := Except.error.inj exchange'
          rfl
      | disagreement exchange' _ _ _ _ _ => simp [exchange] at exchange'
      | agentHangs exchange' _ _ _ => simp [exchange] at exchange'
      | exhausted exchange' _ _ => simp [exchange] at exchange'
  | disagreement exchange methods ready place needs agreement =>
      cases ends' with
      | exchange exchange' => simp [exchange] at exchange'
      | disagreement _ _ _ _ _ agreement' =>
          rw [agreement] at agreement'
          obtain rfl := Except.error.inj agreement'
          rfl
      | agentHangs _ methods' ready' _ =>
          rw [place] at agreement
          exact absurd agreement (not_disagreement_and_hangs methods methods' ready ready' needs)
      | exhausted _ ready' _ =>
          rw [place] at agreement
          exact absurd (ready' _ _ _ methods) (not_ready_of_disagreement needs agreement)
  | agentHangs exchange methods ready place =>
      cases ends' with
      | exchange exchange' => simp [exchange] at exchange'
      | disagreement _ methods' ready' place' needs agreement =>
          rw [place'] at agreement
          exact absurd agreement (not_disagreement_and_hangs methods' methods ready' ready needs)
      | agentHangs _ _ _ _ => rfl
      | exhausted _ ready' _ => exact absurd (ready' _ _ _ methods) (not_ready_of_hangs _ _)
  | exhausted exchange ready place =>
      cases ends' with
      | exchange exchange' => simp [exchange] at exchange'
      | disagreement _ methods _ place' needs agreement =>
          rw [place'] at agreement
          exact absurd (ready _ _ _ methods) (not_ready_of_disagreement needs agreement)
      | agentHangs _ methods _ _ => exact absurd (ready _ _ _ methods) (not_ready_of_hangs _ _)
      | exhausted _ _ _ => rfl

theorem Ends.unique {phase : Phase} {result result' : Except Error Stream}
    (ends : Ends dialer plan timeout phase result)
    (ends' : Ends dialer plan timeout phase result') : result = result' := by
  cases phase with
  | start => cases ends
  | dialed => exact ends.eq_of_dialed ends'
  | trusted server history => exact ends.eq_of_trusted ends'
  | loggedIn server => cases ends
  | unopened reason => cases ends
  | refused => cases ends; cases ends'; rfl
  | broken reason => cases ends; cases ends'; rfl
  | unanswered => cases ends; cases ends'; rfl
  | streaming => cases ends; cases ends'; rfl
  | ended reason => cases ends; cases ends'; rfl

theorem Runs.unique {phase last last' : Phase} {events events' : List Event}
    {result result' : Except Error Stream} (runs : Runs dialer plan timeout phase events last)
    (ends : Ends dialer plan timeout last result)
    (runs' : Runs dialer plan timeout phase events' last')
    (ends' : Ends dialer plan timeout last' result') : events = events' ∧ result = result' := by
  induction runs generalizing events' with
  | nil phase =>
      cases runs' with
      | nil => exact ⟨rfl, ends.unique ends'⟩
      | cons move _ => exact absurd move ends.not_moves
  | cons move _ ih =>
      cases runs' with
      | nil => exact absurd move ends'.not_moves
      | cons move' rest' =>
          obtain ⟨rfl, rfl⟩ := move.unique move'
          obtain ⟨rfl, hresult⟩ := ih ends rest'
          exact ⟨rfl, hresult⟩

end Unique

end SshTunnel
