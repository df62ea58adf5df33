import SshTunnel.Proofs.Bytes.Base64
import SshTunnel.Proofs.KnownHosts.Reading
import SshTunnel.Proofs.Text.Cuts
import SshTunnel.Proofs.Text.Utf8

/-!
# The grammar of known hosts

`Writes` tells how a line writes an entry, without going through the line: by its words, one of
which spells the hosts and two of which are a key. A line is read as an entry iff it writes it
(`readLine_eq_ok_iff`). So no line of a file is dropped: a file loads iff each line writes an entry,
is blank or is a comment, and what it loads are the entries that its lines write, in their order;
otherwise the fault names the first line that does neither (`load_eq_ok_iff_writes`).
-/

namespace SshTunnel.KnownHosts

/-! ## Hosts -/

def IsBase64 (text : List Char) (octets : Bytes) : Prop :=
  Text.Utf8.encode text = Base64.encode octets

def hashSign : List Char := "|1|".toList

/-- The ways to write the hosts of an entry. -/
inductive Spells : List Char → Hosts → Prop
  /-- A salt and a digest with a bar between them, after the sign of a hashed host. -/
  | hashed {salt digest : List Char} {saltOctets digestOctets : Bytes}
      (hsalt : IsBase64 salt saltOctets) (hdigest : IsBase64 digest digestOctets) :
      Spells (hashSign ++ salt ++ '|' :: digest) (.hashed saltOctets digestOctets)
  /-- Patterns with commas between them, of which one at least is not empty. -/
  | list {field : List Char} (unhashed : ¬ hashSign <+: field)
      (some : ∃ pattern ∈ field.splitOn ',', pattern ≠ []) :
      Spells field (.patterns (((field.splitOn ',').filter (· ≠ [])).map String.ofList))

theorem IsBase64.bar_not_mem {text : List Char} {octets : Bytes} (h : IsBase64 text octets) :
    '|' ∉ text := by
  intro hmem
  obtain ⟨a, b, rfl⟩ := List.append_of_mem hmem
  rw [IsBase64, Text.Utf8.encode_append, Text.Utf8.encode_cons] at h
  refine Base64.bar_not_mem_encode octets ?_
  rw [← h]
  exact List.mem_append_right _ (List.mem_append_left _ (by decide))

theorem readHashed_eq_ok_iff {text : List Char} {hosts : Hosts} :
    readHashed text = .ok hosts ↔ ∃ salt digest saltOctets digestOctets,
      text = salt ++ '|' :: digest ∧ IsBase64 salt saltOctets ∧ IsBase64 digest digestOctets ∧
        hosts = .hashed saltOctets digestOctets := by
  rw [readHashed]
  constructor
  · intro h
    cases hcut : Text.splitFirst (· = '|') text with
    | none => simp [hcut] at h
    | some parts =>
        obtain ⟨salt, digest⟩ := parts
        rw [hcut] at h
        obtain ⟨saltOctets, hsalt, h⟩ := bind_eq_ok_iff.1 h
        obtain ⟨digestOctets, hdigest, h⟩ := bind_eq_ok_iff.1 h
        obtain rfl : Hosts.hashed saltOctets digestOctets = hosts := by
          simpa [pure, Except.pure] using h
        exact ⟨salt, digest, saltOctets, digestOctets, (Text.splitFirst_eq_some_iff.1 hcut).2,
          Base64.decode_eq_ok_iff.1 (mapError_eq_ok_iff.1 hsalt),
          Base64.decode_eq_ok_iff.1 (mapError_eq_ok_iff.1 hdigest), rfl⟩
  · rintro ⟨salt, digest, saltOctets, digestOctets, rfl, hsalt, hdigest, rfl⟩
    rw [Text.splitFirst_eq_some_iff.2 ⟨hsalt.bar_not_mem, rfl⟩]
    refine bind_eq_ok_iff.2 ⟨_, mapError_eq_ok_iff.2 (Base64.decode_eq_ok_iff.2 hsalt), ?_⟩
    exact bind_eq_ok_iff.2 ⟨_, mapError_eq_ok_iff.2 (Base64.decode_eq_ok_iff.2 hdigest), rfl⟩

theorem readPatterns_eq_ok_iff {text : List Char} {hosts : Hosts} :
    readPatterns text = .ok hosts ↔ (∃ pattern ∈ text.splitOn ',', pattern ≠ []) ∧
      hosts = .patterns (((text.splitOn ',').filter (· ≠ [])).map String.ofList) := by
  have hsome : (∃ pattern ∈ text.splitOn ',', pattern ≠ []) ↔
      (text.splitOn ',').filter (· ≠ []) ≠ [] := by
    simp [List.filter_eq_nil_iff]
  rw [readPatterns, Text.splitEvery_eq_splitOn, hsome]
  cases (text.splitOn ',').filter (· ≠ []) with
  | nil => simp
  | cons pattern patterns =>
      simp only [Except.ok.injEq, ne_eq, reduceCtorEq, not_false_eq_true, true_and]
      exact eq_comm

theorem readHosts_of_sign (text : List Char) : readHosts (hashSign ++ text) = readHashed text := rfl

theorem readHosts_of_not_sign {field : List Char} (h : ¬ hashSign <+: field) :
    readHosts field = readPatterns field := by
  rw [readHosts.eq_def]
  split
  · next text => exact absurd ⟨text, rfl⟩ h
  · rfl

theorem readHosts_eq_ok_iff {field : List Char} {hosts : Hosts} :
    readHosts field = .ok hosts ↔ Spells field hosts := by
  constructor
  · intro h
    by_cases hsign : hashSign <+: field
    · obtain ⟨text, rfl⟩ := hsign
      rw [readHosts_of_sign] at h
      obtain ⟨salt, digest, saltOctets, digestOctets, rfl, hsalt, hdigest, rfl⟩ :=
        readHashed_eq_ok_iff.1 h
      rw [← List.append_assoc]
      exact .hashed hsalt hdigest
    · rw [readHosts_of_not_sign hsign] at h
      obtain ⟨hsome, rfl⟩ := readPatterns_eq_ok_iff.1 h
      exact .list hsign hsome
  · rintro (⟨hsalt, hdigest⟩ | ⟨hsign, hsome⟩)
    · rw [List.append_assoc, readHosts_of_sign]
      exact readHashed_eq_ok_iff.2 ⟨_, _, _, _, rfl, hsalt, hdigest, rfl⟩
    · rw [readHosts_of_not_sign hsign]
      exact readPatterns_eq_ok_iff.2 ⟨hsome, rfl⟩

/-! ## Entries -/

/-- A line writes an entry: after the marker, if there is one, its words are the hosts, the type of
the key and its data, and any others. -/
def Writes (line : List Char) (e : Entry) : Prop :=
  ∃ hosts kind data rest, Text.words line = e.marker.words ++ hosts :: kind :: data :: rest ∧
    (e.marker = .plain → hosts.head? ≠ some '@') ∧ Spells hosts e.hosts ∧
    PublicKey.read kind data = .ok e.key ∧ e.key.algorithm.toList = kind

theorem algorithm_of_read {kind data : List Char} {key : PublicKey}
    (h : PublicKey.read kind data = .ok key) : key.algorithm.toList = kind := by
  rw [PublicKey.read] at h
  obtain ⟨-, h⟩ := check_bind_eq_ok_iff.1 h
  obtain ⟨-, h⟩ := check_bind_eq_ok_iff.1 h
  obtain ⟨src, -, h⟩ := bind_eq_ok_iff.1 h
  obtain ⟨⟨read, rest⟩, -, h⟩ := bind_eq_ok_iff.1 h
  obtain ⟨hkind, h⟩ := check_bind_eq_ok_iff.1 h
  obtain ⟨-, -, h⟩ := bind_eq_ok_iff.1 h
  obtain rfl : read = key := by simpa [pure, Except.pure] using h
  exact not_not.1 hkind

theorem readKey_eq_ok_iff {words : List (List Char)} {key : PublicKey} :
    readKey words = .ok key ↔ ∃ kind data rest, words = kind :: data :: rest ∧
      PublicKey.read kind data = .ok key ∧ key.algorithm.toList = kind := by
  match words with
  | [] => simp [readKey]
  | [_] => simp [readKey]
  | kind :: data :: rest =>
      rw [readKey, mapError_eq_ok_iff]
      constructor
      · intro h
        exact ⟨kind, data, rest, rfl, h, algorithm_of_read h⟩
      · rintro ⟨kind', data', rest', hwords, h, -⟩
        obtain ⟨rfl, rfl, -⟩ : kind = kind' ∧ data = data' ∧ rest = rest' := by
          simpa using hwords
        exact h

theorem marker_and_hosts_iff {marker : Marker} {first hosts : List Char}
    {rest left : List (List Char)} :
    (readMarker first = .ok marker ∧ hostsWord marker first rest = .ok (hosts, left)) ↔
      first :: rest = marker.words ++ hosts :: left ∧
        (marker = .plain → hosts.head? ≠ some '@') := by
  rw [readMarker_eq_ok_iff]
  by_cases hplain : marker = .plain
  · have hhosts : hostsWord marker first rest = .ok (first, rest) := if_pos hplain
    rw [hhosts, hplain]
    simp only [Marker.words, List.nil_append, List.cons.injEq, Except.ok.injEq, Prod.mk.injEq,
      true_and, forall_const, List.ne_cons_self, or_false]
    constructor
    · rintro ⟨hsign, rfl, rfl⟩
      exact ⟨⟨rfl, rfl⟩, hsign⟩
    · rintro ⟨⟨rfl, rfl⟩, hsign⟩
      exact ⟨hsign, rfl, rfl⟩
  · obtain ⟨word, hword⟩ : ∃ word, marker.words = [word] := by
      cases marker with
      | plain => exact absurd rfl hplain
      | revoked => exact ⟨_, rfl⟩
      | certAuthority => exact ⟨_, rfl⟩
    have hhosts : hostsWord marker first rest = .ok (hosts, left) ↔ rest = hosts :: left := by
      unfold hostsWord
      rw [if_neg hplain]
      cases rest with
      | nil => simp
      | cons next rest => simp
    rw [hhosts, hword]
    simp only [hplain, false_and, false_or, List.cons.injEq, and_true, List.cons_append,
      List.nil_append, false_implies]
    exact and_congr_left fun _ => eq_comm

theorem readLine_eq_ok_iff {line : List Char} {e : Entry} :
    readLine line = .ok e ↔ Writes line e := by
  rw [readLine, Text.words_trim, Writes]
  constructor
  · intro h
    cases hwords : Text.words line with
    | nil => simp [hwords, readWords] at h
    | cons first rest =>
        rw [hwords, readWords] at h
        obtain ⟨marker, hmarker, h⟩ := bind_eq_ok_iff.1 h
        obtain ⟨⟨field, left⟩, hfield, h⟩ := bind_eq_ok_iff.1 h
        obtain ⟨hosts, hhosts, h⟩ := bind_eq_ok_iff.1 h
        obtain ⟨key, hkey, h⟩ := bind_eq_ok_iff.1 h
        obtain rfl : ⟨marker, hosts, key⟩ = e := by simpa [pure, Except.pure] using h
        obtain ⟨kind, data, more, rfl, hread, halgorithm⟩ := readKey_eq_ok_iff.1 hkey
        obtain ⟨hline, hsign⟩ := marker_and_hosts_iff.1 ⟨hmarker, hfield⟩
        exact ⟨field, kind, data, more, hline, hsign, readHosts_eq_ok_iff.1 hhosts, hread,
          halgorithm⟩
  · rintro ⟨field, kind, data, more, hline, hsign, hspells, hread, halgorithm⟩
    cases hwords : Text.words line with
    | nil => simp [hwords] at hline
    | cons first rest =>
        rw [hwords] at hline
        obtain ⟨hmarker, hfield⟩ := marker_and_hosts_iff.2 ⟨hline, hsign⟩
        refine bind_eq_ok_iff.2 ⟨_, hmarker, bind_eq_ok_iff.2 ⟨_, hfield, ?_⟩⟩
        refine bind_eq_ok_iff.2 ⟨_, readHosts_eq_ok_iff.2 hspells, ?_⟩
        refine bind_eq_ok_iff.2 ⟨e.key, ?_, rfl⟩
        exact readKey_eq_ok_iff.2 ⟨kind, data, more, rfl, hread, halgorithm⟩

theorem Writes.unique {line : List Char} {e e' : Entry} (h : Writes line e) (h' : Writes line e') :
    e = e' := by
  have heq := (readLine_eq_ok_iff.2 h).symm.trans (readLine_eq_ok_iff.2 h')
  simpa using heq

/-! ## Lines -/

def IsBlankOrComment (line : List Char) : Prop :=
  (∀ c ∈ line, Text.isBlank c = true) ∨
    ∃ gap comment, line = gap ++ '#' :: comment ∧ ∀ c ∈ gap, Text.isBlank c = true

theorem isIdle_iff (line : List Char) : isIdle line = true ↔ IsBlankOrComment line := by
  rw [isIdle, Bool.or_eq_true, decide_eq_true_iff, decide_eq_true_iff, Text.trim_eq_nil_iff,
    Text.head?_trim_eq_some_iff (by decide), IsBlankOrComment]

instance (line : List Char) : Decidable (IsBlankOrComment line) :=
  decidable_of_iff _ (isIdle_iff line)

/-- A line of a file that loads: it is blank, a comment, or it writes an entry. -/
def IsWellFormed (line : List Char) : Prop :=
  IsBlankOrComment line ∨ ∃ e, Writes line e

theorem isSound_iff (line : List Char) : IsSound line ↔ IsWellFormed line := by
  simp only [IsSound, IsWellFormed, isIdle_iff, readLine_eq_ok_iff]

instance (line : List Char) : Decidable (IsWellFormed line) :=
  decidable_of_iff _ (isSound_iff line)

def entryLines (lines : List (List Char)) : List (List Char) :=
  lines.filter fun line => ¬ IsBlankOrComment line

theorem readLines_eq_ok_iff_writes {number : Nat} {lines : List (List Char)}
    {entries : List Entry} :
    readLines number lines = .ok entries ↔ List.Forall₂ Writes (entryLines lines) entries := by
  induction lines generalizing number entries with
  | nil => simp [readLines, entryLines, eq_comm]
  | cons line lines ih =>
      rw [readLines, entryLines, List.filter_cons, ← entryLines]
      by_cases hidle : IsBlankOrComment line
      · rw [if_pos ((isIdle_iff line).2 hidle), if_neg (by simpa using hidle), ih]
      · rw [if_neg (mt (isIdle_iff line).1 hidle), if_pos (by simpa using hidle),
          List.forall₂_cons_left_iff]
        cases hline : readLine line with
        | error reason =>
            simp only [reduceCtorEq, false_iff]
            rintro ⟨e, -, hwrites, -⟩
            rw [readLine_eq_ok_iff.2 hwrites] at hline
            simp at hline
        | ok e =>
            simp only [map_eq_ok_iff, ih]
            constructor
            · rintro ⟨rest, hrest, rfl⟩
              exact ⟨e, rest, readLine_eq_ok_iff.1 hline, hrest, rfl⟩
            · rintro ⟨e', rest, hwrites, hrest, rfl⟩
              rw [(readLine_eq_ok_iff.1 hline).unique hwrites]
              exact ⟨rest, hrest, rfl⟩

theorem readLines_append (number : Nat) (before after : List (List Char)) :
    readLines number (before ++ after) = (do
      let entries ← readLines number before
      (readLines (number + before.length) after).map (entries ++ ·)) := by
  induction before generalizing number with
  | nil =>
      rw [List.nil_append, List.length_nil, Nat.add_zero]
      cases readLines number after <;> rfl
  | cons line before ih =>
      rw [List.cons_append, readLines, readLines, ih, List.length_cons, Nat.add_right_comm,
        Nat.add_assoc]
      by_cases hidle : isIdle line = true
      · rw [if_pos hidle, if_pos hidle]
      · rw [if_neg hidle, if_neg hidle]
        cases readLine line with
        | error reason => rfl
        | ok e =>
            cases readLines (number + 1) before with
            | error fault => rfl
            | ok entries => cases readLines (number + (before.length + 1)) after <;> rfl

theorem readLines_of_first_ill_formed (number : Nat) {before : List (List Char)}
    {line : List Char} (after : List (List Char)) (hbefore : ∀ l ∈ before, IsWellFormed l)
    (hline : ¬ IsWellFormed line) :
    ∃ reason, readLine line = .error reason ∧
      readLines number (before ++ line :: after) =
        .error (.line (number + before.length) reason) := by
  have hidle : ¬ isIdle line = true := fun h => hline (.inl ((isIdle_iff line).1 h))
  have hread : readLines number before = .ok (before.filterMap entryOf?) :=
    readLines_eq_ok_iff.2 ⟨fun l hl => (isSound_iff l).2 (hbefore l hl), rfl⟩
  cases hreason : readLine line with
  | ok e => exact absurd (.inr ⟨e, readLine_eq_ok_iff.1 hreason⟩) hline
  | error reason =>
      refine ⟨reason, rfl, ?_⟩
      rw [readLines_append, hread, readLines, if_neg hidle, hreason]
      rfl

theorem exists_first_ill_formed {lines : List (List Char)}
    (h : ¬ ∀ line ∈ lines, IsWellFormed line) :
    ∃ before line after, lines = before ++ line :: after ∧
      (∀ l ∈ before, IsWellFormed l) ∧ ¬ IsWellFormed line := by
  have hfound : lines.find? (fun line => ¬ IsWellFormed line) ≠ none := by
    simpa [List.find?_eq_none] using h
  obtain ⟨line, hline⟩ := Option.ne_none_iff_exists'.1 hfound
  obtain ⟨hill, before, after, hlines, hbefore⟩ := List.find?_eq_some_iff_append.1 hline
  exact ⟨before, line, after, hlines, by simpa using hbefore, by simpa using hill⟩

/-! ## Files -/

section Files

variable {fs : FileSystem} {path text : String}

theorem load_eq_map_readEntries (reads : fs.readText path = .ok text) :
    load fs path = (readEntries text.toList).map fun entries => ⟨path, entries⟩ := by
  rw [load, reads]
  rfl

theorem load_eq_ok_iff {store : KnownHosts} (reads : fs.readText path = .ok text) :
    load fs path = .ok store ↔
      store.path = path ∧ readEntries text.toList = .ok store.entries := by
  rw [load_eq_map_readEntries reads, map_eq_ok_iff]
  constructor
  · rintro ⟨entries, hentries, rfl⟩
    exact ⟨rfl, hentries⟩
  · rintro ⟨rfl, hentries⟩
    exact ⟨store.entries, hentries, rfl⟩

theorem exists_load_iff (reads : fs.readText path = .ok text) :
    (∃ store, load fs path = .ok store) ↔
      ∀ line ∈ Text.lines text.toList, IsWellFormed line := by
  simp only [load_eq_ok_iff reads, readEntries_eq_ok_iff, isSound_iff]
  constructor
  · rintro ⟨store, -, hall, -⟩
    exact hall
  · intro hall
    exact ⟨⟨path, (Text.lines text.toList).filterMap entryOf?⟩, rfl, hall, rfl⟩

def IsEnded (text : String) : Prop :=
  text = "" ∨ text.toList.getLast? = some '\n'

theorem readEntries_append_eq_ok_iff {more : String} {entries : List Entry}
    (h : IsEnded text) :
    readEntries (text ++ more).toList = .ok entries ↔
      ∃ first second, readEntries text.toList = .ok first ∧
        readEntries more.toList = .ok second ∧ entries = first ++ second := by
  have hended : text.toList = [] ∨ text.toList.getLast? = some '\n' :=
    h.imp_left fun hnil => by rw [hnil]; rfl
  rw [readEntries, String.toList_append, Text.lines_append _ hended, readLines_append]
  constructor
  · intro hread
    obtain ⟨first, hfirst, hread⟩ := bind_eq_ok_iff.1 hread
    obtain ⟨second, hsecond, rfl⟩ := map_eq_ok_iff.1 hread
    exact ⟨first, second, hfirst,
      readLines_eq_ok_iff_writes.2 (readLines_eq_ok_iff_writes.1 hsecond), rfl⟩
  · rintro ⟨first, second, hfirst, hsecond, rfl⟩
    exact bind_eq_ok_iff.2 ⟨first, hfirst, map_eq_ok_iff.2 ⟨second,
      readLines_eq_ok_iff_writes.2 (readLines_eq_ok_iff_writes.1 hsecond), rfl⟩⟩

theorem load_of_ill_formed (reads : fs.readText path = .ok text)
    (hill : ¬ ∀ line ∈ Text.lines text.toList, IsWellFormed line) :
    ∃ before line after reason fault, Text.lines text.toList = before ++ line :: after ∧
      (∀ l ∈ before, IsWellFormed l) ∧ ¬ IsWellFormed line ∧ readLine line = .error reason ∧
        load fs path = .error fault ∧
        fault.message = s!"line {before.length + 1}: {reason.message}" := by
  obtain ⟨before, line, after, hlines, hbefore, hline⟩ := exists_first_ill_formed hill
  obtain ⟨reason, hreason, hread⟩ := readLines_of_first_ill_formed 1 after hbefore hline
  refine ⟨before, line, after, reason, .line (1 + before.length) reason, hlines, hbefore, hline,
    hreason, ?_, ?_⟩
  · rw [load_eq_map_readEntries reads, readEntries, hlines, hread]
    rfl
  · rw [Nat.add_comm]
    rfl

/-- Of one text after another, the known hosts are those of the one and then those of the other. -/
theorem load_append_eq_ok_iff {fs' fs'' : FileSystem} {path' path'' more : String}
    (reads : fs.readText path = .ok text) (reads' : fs'.readText path' = .ok more)
    (reads'' : fs''.readText path'' = .ok (text ++ more)) (hended : IsEnded text)
    (both : KnownHosts) :
    load fs'' path'' = .ok both ↔ ∃ store store', load fs path = .ok store ∧
      load fs' path' = .ok store' ∧ both = ⟨path'', store.entries ++ store'.entries⟩ := by
  rw [load_eq_ok_iff reads'', readEntries_append_eq_ok_iff hended]
  simp only [load_eq_ok_iff reads, load_eq_ok_iff reads']
  constructor
  · rintro ⟨hpath, first, second, hfirst, hsecond, hboth⟩
    refine ⟨⟨path, first⟩, ⟨path', second⟩, ⟨rfl, hfirst⟩, ⟨rfl, hsecond⟩, ?_⟩
    cases both
    exact congrArg₂ KnownHosts.mk hpath hboth
  · rintro ⟨store, store', ⟨-, hfirst⟩, ⟨-, hsecond⟩, rfl⟩
    exact ⟨rfl, _, _, hfirst, hsecond, rfl⟩

/-- What a file loads are the entries that its lines write, one for each line that is neither blank
nor a comment, in their order, and each depends on its line only. The file loads iff all lines are
well formed; otherwise the fault names the first that is not by its number. So, of a text with its
last line ended and a text after it, the entries are those of the one and then those of the
other. -/
theorem load_eq_ok_iff_writes (reads : fs.readText path = .ok text) :
    let lines := Text.lines text.toList
    (∀ store, load fs path = .ok store ↔
        store.path = path ∧ List.Forall₂ Writes (entryLines lines) store.entries) ∧
      (∀ line e e', Writes line e → Writes line e' → e = e') ∧
      ((∃ store, load fs path = .ok store) ↔ ∀ line ∈ lines, IsWellFormed line) ∧
      ((¬ ∀ line ∈ lines, IsWellFormed line) → ∃ before line after reason fault,
        lines = before ++ line :: after ∧ (∀ l ∈ before, IsWellFormed l) ∧
          ¬ IsWellFormed line ∧ readLine line = .error reason ∧
          load fs path = .error fault ∧
          fault.message = s!"line {before.length + 1}: {reason.message}") ∧
      (IsEnded text → ∀ (fs' fs'' : FileSystem) (path' path'' more : String),
        fs'.readText path' = .ok more → fs''.readText path'' = .ok (text ++ more) →
          ∀ both, load fs'' path'' = .ok both ↔ ∃ store store', load fs path = .ok store ∧
            load fs' path' = .ok store' ∧ both = ⟨path'', store.entries ++ store'.entries⟩) := by
  intro lines
  refine ⟨?_, fun line e e' h h' => h.unique h', exists_load_iff reads,
    load_of_ill_formed reads, ?_⟩
  · intro store
    rw [load_eq_ok_iff reads, readEntries, readLines_eq_ok_iff_writes]
  · intro hended fs' fs'' path' path'' more reads' reads'' both
    exact load_append_eq_ok_iff reads reads' reads'' hended both

end Files

/-- Blank lines and comments are counted, and a marker does not make an entry. -/
example : readEntries "# hosts\n\n@revoked\nh1".toList = .error (.line 3 .noHosts) := by
  decide +kernel

def rootFile (text : String) : FileSystem where
  entries := [(["known_hosts"], .file (Text.Utf8.ofString text))]

theorem readText_rootFile (text : String) :
    (rootFile text).readText "/known_hosts" = .ok text := by
  have hnode : (rootFile text).node? ["known_hosts"] = some (.file (Text.Utf8.ofString text)) := rfl
  have hwalk : (rootFile text).walk FileSystem.maxLinks [] ["known_hosts"] =
      .ok ["known_hosts"] := by
    rw [FileSystem.walk]
    refine check_bind_eq_ok_iff.2 ⟨not_not.2 rfl, ?_⟩
    rw [if_neg (by decide), if_neg (by decide), if_neg (by decide), List.nil_append, hnode]
    rw [FileSystem.walk]
  have hfind : (rootFile text).find "/known_hosts" =
      .ok (.file (Text.Utf8.ofString text)) := by
    rw [FileSystem.find]
    refine check_bind_eq_ok_iff.2 ⟨by decide, check_bind_eq_ok_iff.2 ⟨by decide,
      check_bind_eq_ok_iff.2 ⟨by decide, ?_⟩⟩⟩
    have hsteps : FileSystem.steps (rootFile text).workingDirectory "/known_hosts" =
        ([], ["known_hosts"]) := by
      change FileSystem.steps [] "/known_hosts" = _
      decide
    rw [hsteps]
    refine bind_eq_ok_iff.2 ⟨_, hwalk, ?_⟩
    rw [hnode]
    rfl
  have hdecode : Text.Utf8.decodeString (Text.Utf8.ofString text) = .ok text := by
    rw [Text.Utf8.decodeString, Text.Utf8.ofString, Text.Utf8.decode_eq_ok_iff.2 rfl]
    exact congrArg Except.ok String.ofList_toList
  rw [FileSystem.readText, FileSystem.readBytes, hfind]
  refine bind_eq_ok_iff.2 ⟨_, rfl, ?_⟩
  rw [hdecode]
  rfl

/-- Known hosts with a comment, a blank line, a hashed host and a list with a gap in it. -/
def commented : String :=
  "# hosts\n" ++ " \n" ++
    "@revoked |1|MDEy|NDU= ssh-rsa AAAAB3NzaC1yc2EAAAABAwAAAAEF\n" ++
    "h1,,!h2 ssh-rsa AAAAB3NzaC1yc2EAAAABAwAAAAEF old key\n"

/-- Two of the four lines are entries. -/
theorem load_commented :
    ∃ store, load (rootFile commented) "/known_hosts" = .ok store ∧ store.entries.length = 2 := by
  obtain ⟨hload, -, hexists, -⟩ := load_eq_ok_iff_writes (readText_rootFile commented)
  obtain ⟨store, hstore⟩ := hexists.2 (by decide +kernel)
  have hentries := ((hload store).1 hstore).2.length_eq
  have hlines : (entryLines (Text.lines commented.toList)).length = 2 := by decide +kernel
  exact ⟨store, hstore, hentries.symm.trans hlines⟩

end SshTunnel.KnownHosts
