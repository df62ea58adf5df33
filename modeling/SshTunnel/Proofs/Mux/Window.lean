import SshTunnel.Proofs.Mux.Upload

/-!
# The master's window

The master opens a channel with a window, and grants more of it as it goes. What has been sent and
the window that is left make up what has been granted (`Runs.windowed`), so that nothing is sent
beyond it. This holds as long as the number of the octets granted fits into the word that counts
them.
-/

namespace SshTunnel.Mux.Line

/-- How much data the master has granted besides the window of the channel. -/
def grantedOf (events : List Event) : Nat :=
  ((readOf events).map fun m => m.grant.toNat).sum

@[simp] theorem grantedOf_append (events events' : List Event) :
    grantedOf (events ++ events') = grantedOf events + grantedOf events' := by
  simp [grantedOf]

variable {c : RemoteChannel} {events moved : List Event} {line line' : Line}
  {next : Except Ending Line}

theorem toNat_window_sub {p : Pump} {octets : Bytes} (hfits : octets.length ≤ p.limit) :
    octets.length + (p.window - octets.length.toUInt64).toNat = p.window.toNat := by
  have hwindow := Nat.le_trans hfits p.limit_le_window
  have hlength : octets.length.toUInt64.toNat = octets.length :=
    UInt64.toNat_ofNat_of_lt' (Nat.lt_of_le_of_lt hwindow p.window.toNat_lt)
  have hle : octets.length.toUInt64 ≤ p.window := by
    rw [UInt64.le_iff_toNat_le, hlength]
    exact hwindow
  rw [UInt64.toNat_sub_of_le _ _ hle, hlength]
  omega

theorem Moves.uploaded_le (move : Moves line moved next) :
    (uploadedOf moved).length ≤ line.pump.window.toNat := by
  cases move with
  | take octets rest looks front nonempty fits =>
      simpa [uploadedOf, Pump.takeLocal] using Nat.le_trans fits line.pump.limit_le_window
  | finish looks => simp [uploadedOf_endLocal]
  | receive body => simp [uploadedOf_of_answers fun _ => answers_of_mem_sentOf]
  | _ => simp [uploadedOf]

theorem Moves.window (move : Moves line moved next) (hnext : next = .ok line')
    (bounded : line.pump.window.toNat + grantedOf moved < 2 ^ 64) :
    (uploadedOf moved).length + line'.pump.window.toNat =
      line.pump.window.toNat + grantedOf moved := by
  cases move with
  | take octets rest looks front nonempty fits =>
      obtain rfl := Except.ok.inj hnext
      simpa [uploadedOf, grantedOf, Pump.takeLocal] using toNat_window_sub fits
  | finish looks =>
      obtain rfl := Except.ok.inj hnext
      simp [uploadedOf_endLocal, grantedOf]
  | receive body =>
      have hnil : uploadedOf (.received body :: eventsOf (line.pump.receiveFrame body)) = [] :=
        uploadedOf_of_answers fun _ => answers_of_mem_sentOf
      obtain ⟨m, p', read, handles, rfl⟩ := handles_of_after hnext
      have hgranted : grantedOf (.received body :: eventsOf (line.pump.receiveFrame body)) =
          m.grant.toNat := by
        rw [grantedOf, readOf_received _ read]
        exact Nat.add_zero _
      rw [hgranted] at bounded ⊢
      rw [hnil, handles.window, UInt64.toNat_add, UInt32.toNat_toUInt64, Nat.mod_eq_of_lt bounded,
        List.length_nil, Nat.zero_add]
  | write | shutdown | drop =>
      obtain rfl := Except.ok.inj hnext
      simp [uploadedOf, grantedOf]
  | disconnect | breakOff => cases hnext

theorem Runs.windowed (run : Runs c events (.ok line))
    (bounded : c.window.toNat + grantedOf events < 2 ^ 64) :
    (uploadedOf events).length + line.pump.window.toNat = c.window.toNat + grantedOf events := by
  -- The bound holds of every earlier part of the run, because grants only add up.
  generalize hnext : Except.ok line = next at run
  induction run generalizing line with
  | opened =>
      obtain rfl := Except.ok.inj hnext
      simp [uploadedOf, grantedOf, Pump.ofChannel]
  | move run move ih =>
      rw [grantedOf_append] at bounded
      have hbalance := ih (by omega) rfl
      have hmove := move.window hnext.symm (by omega)
      rw [uploadedOf_append, grantedOf_append, List.length_append]
      omega

theorem Runs.uploaded_le (run : Runs c events next)
    (bounded : c.window.toNat + grantedOf events < 2 ^ 64) :
    (uploadedOf events).length ≤ c.window.toNat + grantedOf events := by
  cases run with
  | opened => simp [uploadedOf]
  | move run move =>
      rw [grantedOf_append] at bounded
      have hbalance := run.windowed (by omega)
      have hmove := move.uploaded_le
      rw [uploadedOf_append, grantedOf_append, List.length_append]
      omega

/-- What has been sent and the window that is left make up what the master has granted, as long as
that fits into a word of sixty-four bits. So no more is sent than has been granted, and the window
is never lessened by more than it holds. A message carries at least one octet of data, and no more
than the master and the client allow. Nothing is sent while the window or that allowance is
empty. -/
theorem Runs.keeps_window (run : Runs c events next)
    (bounded : c.window.toNat + grantedOf events < 2 ^ 64) :
    (∀ line, next = .ok line →
      (uploadedOf events).length + line.pump.window.toNat = c.window.toNat + grantedOf events) ∧
    (uploadedOf events).length ≤ c.window.toNat + grantedOf events ∧
    (∀ m ∈ sentOf events, m.isData = true →
      ∃ octets, m = .data c.id octets ∧ 1 ≤ octets.length ∧
        octets.length ≤ min 32768 c.maxPacket.toNat) ∧
    ∀ line moved next', next = .ok line → Moves line moved next' →
      (uploadedOf moved).length ≤ line.pump.window.toNat ∧
      (line.pump.window = 0 ∨ c.maxPacket = 0 → ∀ m ∈ sentOf moved, m.isData = false) := by
  refine ⟨?_, run.uploaded_le bounded, ?_, ?_⟩
  · rintro line rfl
    exact run.windowed bounded
  · intro m hm hdata
    obtain ⟨octets, rfl, hnonempty, hfits⟩ := run.data hm hdata
    exact ⟨octets, rfl, List.length_pos_iff.2 hnonempty, hfits⟩
  · rintro line moved next' rfl move
    refine ⟨move.uploaded_le, fun hzero m hm => Bool.eq_false_iff.2 fun hdata => ?_⟩
    obtain ⟨octets, rfl, hnonempty, hfits⟩ := move.data hm hdata
    have hpositive := List.length_pos_iff.2 hnonempty
    have hwindow := line.pump.limit_le_window
    have hmax := line.pump.limit_le
    rw [run.serves.2] at hmax
    rcases hzero with hzero | hzero
    · simp [hzero] at hwindow
      omega
    · simp [hzero] at hmax
      omega

theorem keeps_window_of_narrow_window :
    ∃ events line, Runs ⟨7, 3, 2⟩ events (.ok line) ∧
      sentOf events = [.data 7 [65, 66], .data 7 [67], .data 7 [68, 69]] ∧ grantedOf events = 4 ∧
      (3 : UInt32).toNat + grantedOf events < 2 ^ 64 ∧
      (uploadedOf events).length + line.pump.window.toNat =
        (3 : UInt32).toNat + grantedOf events := by
  have start := Runs.opened (c := ⟨7, 3, 2⟩)
  have written := start.move (.write [65, 66, 67, 68, 69] rfl)
  have first := written.move (.take [65, 66] [67, 68, 69] rfl rfl (by decide) (by decide))
  have second := first.move (.take [67] [68, 69] rfl rfl (by decide) (by decide))
  have granted := second.move (.receive [93, 0, 0, 0, 0, 0, 0, 0, 4])
  have third := granted.move (.take [68, 69] [] rfl rfl (by decide) (by decide))
  exact ⟨_, _, third, rfl, rfl, by decide, (third.keeps_window (by decide)).1 _ rfl⟩

end SshTunnel.Mux.Line
