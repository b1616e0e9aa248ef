import RocmCli.Gguf.RangedReader

namespace RocmCli
namespace Gguf

open Scan Text

/-!
# Remote reads equal local ones

A server serves a file if the bodies of its partial answers agree with the file
from where they say they start.  Then what the reader returns is what a cursor
over the file returns, at most cut short, and a parse of the remote header is a
parse of the file or fails with the connection.
-/

/-- Where a partial answer says it starts, its body agrees with the file, as far
as both go. -/
def ServesFile (file : Bytes) (network : Network) : Prop :=
  forall requests url range response start,
    network requests url range = .response response -> response.status = 206 ->
    contentRangeStart response = some start ->
    forall count, count ≤ response.body.length -> count ≤ (file.drop start).length ->
      response.body.take count = (file.drop start).take count

/-- The window is a part of the file. -/
structure Follows (file : Bytes) (reader : RangedReader) : Prop where
  len : reader.len = file.length
  window : reader.window <+: file.drop reader.windowStart
  fetched : reader.fetched ≤ maxFetchBytes

/-- Nothing changed but the number of requests. -/
def OnlyAsked (before after : RangedReader) : Prop :=
  after = { before with requests := after.requests }

variable {file : Bytes} {network : Network} {reader after : RangedReader}

theorem Follows.onlyAsked (follows : Follows file reader) (asked : OnlyAsked reader after) :
    Follows file after := by
  rw [asked]
  exact ⟨follows.len, follows.window, follows.fetched⟩

theorem OnlyAsked.refl (reader : RangedReader) : OnlyAsked reader reader := rfl

/-! ## Requests -/

variable {response : Response}

variable {requests : Nat}

/-- A response that is returned came from the network. -/
theorem sendHops_ok {range : Option String} {what : String} {hops : Nat} {url : String}
    (answered : (sendHops network range what hops url requests).1 = .ok response) :
    exists asked url, network asked url range = .response response := by
  induction hops generalizing url requests with
  | zero => cases answered
  | succ hops ih =>
      unfold sendHops at answered
      rcases came : network requests url range with _ | error | got
      · rw [came] at answered
        cases answered
      · rw [came] at answered
        cases answered
      · rw [came] at answered
        dsimp only at answered
        by_cases final : (!isRedirect got.status) = true
        · rw [if_pos final] at answered
          rw [← Except.ok.inj answered]
          exact ⟨requests, url, came⟩
        · rw [if_neg final] at answered
          rcases moved : got.location with _ | location
          · rw [moved] at answered
            cases answered
          · rw [moved] at answered
            dsimp only at answered
            rcases target : redirectTarget url location what with error | next
            · rw [target] at answered
              cases answered
            · rw [target] at answered
              exact ih answered

/-! ## Windows -/

theorem wanted_le (reader : RangedReader) : reader.wanted ≤ reader.len - reader.position := by
  unfold RangedReader.wanted RangedReader.windowEnd
  omega

theorem wanted_pos (fits : reader.len ≤ maxU64) (inside : reader.position < reader.len) :
    0 < reader.wanted := by
  unfold RangedReader.wanted RangedReader.windowEnd saturatingAdd windowBytes
  omega

/-- A window that is taken over is the part of the file that was asked for. -/
theorem accept_ok (follows : Follows file reader) (serves : ServesFile file network) {url : String}
    {range : Option String} (came : network requests url range = .response response)
    (accepted : reader.accept response = .ok after) :
    after.len = reader.len ∧ after.position = reader.position ∧
      after.windowStart = reader.position ∧
      after.window = (file.drop reader.position).take reader.wanted ∧
      after.fetched = reader.fetched + reader.wanted := by
  unfold RangedReader.accept at accepted
  by_cases status : response.status ≠ 206
  · rw [if_pos status] at accepted
    cases accepted
  · rw [if_neg status] at accepted
    by_cases elsewhere : contentRangeStart response ≠ some reader.position
    · rw [if_pos elsewhere] at accepted
      cases accepted
    · rw [if_neg elsewhere] at accepted
      rcases body : readBody response reader.wanted with error | window
      · rw [body] at accepted
        cases accepted
      · rw [body] at accepted
        dsimp only at accepted
        by_cases short : window.length ≠ reader.wanted
        · rw [if_pos short] at accepted
          cases accepted
        · rw [if_neg short] at accepted
          have enough : reader.wanted ≤ response.body.length := by
            unfold readBody at body
            by_cases enough : reader.wanted ≤ response.body.length
            · exact enough
            · rw [if_neg enough] at body
              rcases ended : response.bodyError with _ | error
              · rw [ended] at body
                rw [← not_not.mp short, ← Except.ok.inj body]
              · rw [ended] at body
                cases body
          have isWindow : window = response.body.take reader.wanted := by
            unfold readBody at body
            rw [if_pos enough] at body
            exact (Except.ok.inj body).symm
          have inFile : reader.wanted ≤ (file.drop reader.position).length := by
            rw [List.length_drop, ← follows.len]
            exact wanted_le reader
          have agrees := serves requests url range response reader.position came
            (not_not.mp status) (not_not.mp elsewhere) reader.wanted enough inFile
          rw [← Except.ok.inj accepted]
          exact ⟨rfl, rfl, rfl, isWindow.trans agrees, rfl⟩

variable {error : IoError}

theorem accept_error (refused : reader.accept response = .error error) : error.kind = .other := by
  unfold RangedReader.accept at refused
  split at refused
  · rw [← Except.error.inj refused]
    rfl
  · split at refused
    · rw [← Except.error.inj refused]
      rfl
    · split at refused
      · rw [← Except.error.inj refused]
        rfl
      · split at refused
        · rw [← Except.error.inj refused]
          rfl
        · cases refused

/-- What a fill does, by whether the window is too much, refused or accepted. -/
theorem fill_cases (reader : RangedReader) (network : Network) :
    (exists error asked, reader.fill network = (.error error, asked) ∧ OnlyAsked reader asked ∧
        error.kind = .other) ∨
      (exists response requests filled, saturatingAdd reader.fetched reader.wanted ≤ maxFetchBytes ∧
        (exists asked url range, network asked url range = .response response) ∧
        ({ reader with requests := requests } : RangedReader).accept response = .ok filled ∧
        reader.fill network = (.ok (), filled)) := by
  unfold RangedReader.fill
  by_cases tooMuch : maxFetchBytes < saturatingAdd reader.fetched reader.wanted
  · left
    rw [if_pos tooMuch]
    exact ⟨_, _, rfl, OnlyAsked.refl reader, rfl⟩
  · rw [if_neg tooMuch]
    rcases sent : send network (some s!"bytes={reader.position}-{reader.windowEnd - 1}")
        "the model file" reader.url reader.requests with ⟨answer, requests⟩
    dsimp only
    rcases answer with error | response
    · exact Or.inl ⟨_, _, rfl, rfl, rfl⟩
    · dsimp only
      rcases accepted : ({ reader with requests := requests } : RangedReader).accept response with
        error | filled
      · exact Or.inl ⟨_, _, rfl, rfl, accept_error accepted⟩
      · right
        have came := sendHops_ok (congrArg Prod.fst sent)
        rcases came with ⟨asked, url, came⟩
        exact ⟨response, requests, filled, Nat.le_of_not_lt tooMuch, ⟨asked, url, _, came⟩, accepted,
          rfl⟩

theorem fill_error (failed : reader.fill network = (.error error, after)) :
    OnlyAsked reader after ∧ error.kind = .other := by
  rcases fill_cases reader network with ⟨found, asked, isFill, onlyAsked, kind⟩ |
    ⟨_, _, _, _, _, _, isFill⟩
  · rw [failed] at isFill
    cases isFill
    exact ⟨onlyAsked, kind⟩
  · rw [failed] at isFill
    cases isFill

/-- A window that is filled holds the position. -/
theorem fill_ok (follows : Follows file reader) (fits : reader.len ≤ maxU64)
    (serves : ServesFile file network) (inside : reader.position < reader.len)
    (filled : reader.fill network = (.ok (), after)) :
    Follows file after ∧ after.position = reader.position ∧ after.inWindow = true ∧
      after.fetched = reader.fetched + reader.wanted := by
  rcases fill_cases reader network with ⟨_, _, isFill, _⟩ |
    ⟨response, requests, window, few, ⟨asked, url, range, came⟩, accepted, isFill⟩
  · rw [filled] at isFill
    cases isFill
  · rw [filled] at isFill
    cases isFill
    have asking : Follows file { reader with requests := requests } :=
      ⟨follows.len, follows.window, follows.fetched⟩
    rcases accept_ok asking serves came accepted with ⟨len, position, start, isWindow, fetched⟩
    have sameWanted : ({ reader with requests := requests } : RangedReader).wanted =
        reader.wanted := rfl
    rw [sameWanted] at isWindow fetched
    have length : after.window.length = reader.wanted := by
      rw [isWindow, List.length_take, List.length_drop, ← follows.len]
      exact Nat.min_eq_left (wanted_le reader)
    refine ⟨⟨len.trans follows.len, ?_, ?_⟩, position, ?_, fetched⟩
    · rw [isWindow, start]
      exact List.take_prefix _ _
    · rw [fetched]
      have small := wanted_le reader
      unfold saturatingAdd at few
      have bound : maxFetchBytes < maxU64 := by decide
      change reader.fetched + reader.wanted ≤ maxFetchBytes
      omega
    · have positive := wanted_pos fits inside
      unfold RangedReader.inWindow
      rw [start, position, length]
      simpa using positive

/-! ## Reads -/

/-- What a cursor over the file reads. -/
def cursorRead (file : Bytes) (position bufLen : Nat) : Bytes :=
  (file.drop position).take bufLen

variable {count : Nat}

/-- What is read inside the window is read from the file. -/
theorem window_read (follows : Follows file reader) (inWindow : reader.inWindow = true)
    (bufLen : Nat)
    (isCount : count = min bufLen (reader.window.length - (reader.position - reader.windowStart))) :
    (reader.window.drop (reader.position - reader.windowStart)).take count =
        (cursorRead file reader.position bufLen).take count ∧
      ((reader.window.drop (reader.position - reader.windowStart)).take count).length = count := by
  rcases follows.window with ⟨rest, split⟩
  rcases Bool.and_eq_true_iff.mp inWindow with ⟨low, high⟩
  have low : reader.windowStart ≤ reader.position := by simpa using low
  have high : reader.position < reader.windowStart + reader.window.length := by simpa using high
  have inside : reader.position - reader.windowStart ≤ reader.window.length := by omega
  have fromFile : file.drop reader.position =
      reader.window.drop (reader.position - reader.windowStart) ++ rest := by
    have total : reader.position =
        reader.windowStart + (reader.position - reader.windowStart) := by omega
    rw [total, ← List.drop_drop, ← split, List.drop_append_of_le_length inside]
    congr 2
    omega
  have fits : count ≤ (reader.window.drop (reader.position - reader.windowStart)).length := by
    rw [List.length_drop, isCount]
    exact Nat.min_le_right _ _
  refine ⟨?_, ?_⟩
  · unfold cursorRead
    rw [List.take_take, fromFile, List.take_append_of_le_length (by omega)]
    congr 1
    rw [isCount]
    omega
  · rw [List.length_take]
    exact Nat.min_eq_left fits

variable {bufLen : Nat}

/-- What a read returns is what the cursor reads, at most cut short. -/
theorem read_ok (follows : Follows file reader) (fits : reader.len ≤ maxU64)
    (serves : ServesFile file network) {bytes : Bytes}
    (isRead : reader.read network bufLen = (.ok bytes, after)) :
    Follows file after ∧ bytes <+: cursorRead file reader.position bufLen ∧
      (bytes = [] -> cursorRead file reader.position bufLen = []) ∧
      after.position = reader.position + bytes.length := by
  unfold RangedReader.read at isRead
  by_cases nothing : (decide (reader.len ≤ reader.position) || decide (bufLen = 0)) = true
  · rw [if_pos nothing] at isRead
    cases isRead
    refine ⟨follows, List.nil_prefix, fun _ => ?_, rfl⟩
    rcases Bool.or_eq_true_iff.mp nothing with ended | empty
    · have past : file.length ≤ reader.position := by
        rw [← follows.len]
        exact of_decide_eq_true ended
      unfold cursorRead
      rw [List.drop_eq_nil_of_le past, List.take_nil]
    · unfold cursorRead
      rw [of_decide_eq_true empty, List.take_zero]
  · rw [if_neg nothing] at isRead
    have ⟨inside, wantsBytes⟩ : reader.position < reader.len ∧ bufLen ≠ 0 := by
      simpa using nothing
    -- The reader that copies: its window holds the position.
    have copies : forall filled : RangedReader, Follows file filled ->
        filled.position = reader.position -> filled.inWindow = true ->
        ((.ok (filled.copyWindow bufLen).1, (filled.copyWindow bufLen).2) :
          Except IoError Bytes × RangedReader) = (.ok bytes, after) ->
        Follows file after ∧ bytes <+: cursorRead file reader.position bufLen ∧
          (bytes = [] -> cursorRead file reader.position bufLen = []) ∧
          after.position = reader.position + bytes.length := by
      intro filled filledFollows samePosition inWindow copied
      have parts := Prod.mk.inj copied
      rcases window_read filledFollows inWindow bufLen rfl with ⟨same, length⟩
      have isBytes : (filled.window.drop (filled.position - filled.windowStart)).take
          (min bufLen (filled.window.length - (filled.position - filled.windowStart))) = bytes :=
        Except.ok.inj parts.1
      rw [isBytes] at same length
      rw [← parts.2]
      refine ⟨⟨filledFollows.len, filledFollows.window, filledFollows.fetched⟩, ?_, ?_, ?_⟩
      · rw [same, samePosition]
        exact List.take_prefix _ _
      · intro empty
        rcases Bool.and_eq_true_iff.mp inWindow with ⟨low, high⟩
        have low : filled.windowStart ≤ filled.position := by simpa using low
        have high : filled.position < filled.windowStart + filled.window.length := by
          simpa using high
        rw [empty, List.length_nil] at length
        omega
      · change filled.position + _ = _
        rw [length, samePosition]
    by_cases inWindow : reader.inWindow = true
    · rw [if_pos inWindow] at isRead
      exact copies reader follows rfl inWindow isRead
    · rw [if_neg inWindow] at isRead
      rcases isFill : reader.fill network with ⟨filled, next⟩
      rw [isFill] at isRead
      rcases filled with error | ⟨⟩
      · cases isRead
      · rcases fill_ok follows fits serves inside isFill with ⟨still, samePosition, now, _⟩
        exact copies next still samePosition now isRead

theorem read_error (isRead : reader.read network bufLen = (.error error, after)) :
    OnlyAsked reader after ∧ error.kind = .other := by
  unfold RangedReader.read at isRead
  by_cases nothing : (decide (reader.len ≤ reader.position) || decide (bufLen = 0)) = true
  · rw [if_pos nothing] at isRead
    cases isRead
  · rw [if_neg nothing] at isRead
    by_cases inWindow : reader.inWindow = true
    · rw [if_pos inWindow] at isRead
      cases isRead
    · rw [if_neg inWindow] at isRead
      rcases isFill : reader.fill network with ⟨filled, next⟩
      rw [isFill] at isRead
      rcases filled with found | ⟨⟩
      · cases isRead
        exact fill_error isFill
      · cases isRead

/-! ## Seeks -/

theorem seek_ok {target : SeekFrom} {next : Nat} (sought : reader.seek target = (.ok next, after)) :
    seekTarget reader.len reader.position target = some next ∧
      after = { reader with position := next } := by
  unfold RangedReader.seek at sought
  rcases found : seekTarget reader.len reader.position target with _ | position
  · rw [found] at sought
    cases sought
  · rw [found] at sought
    cases sought
    exact ⟨rfl, rfl⟩

theorem seek_current_ok {next : Nat} (sought : reader.seek (.current count) = (.ok next, after)) :
    next = reader.position + count ∧ after = { reader with position := next } := by
  rcases seek_ok sought with ⟨target, isAfter⟩
  refine ⟨?_, isAfter⟩
  unfold seekTarget checkedAddSigned at target
  dsimp only at target
  split at target
  · rw [← Option.some.inj target]
    omega
  · cases target

theorem seek_error {target : SeekFrom} (sought : reader.seek target = (.error error, after)) :
    seekTarget reader.len reader.position target = none ∧ after = reader ∧
      error.kind = .invalidInput := by
  unfold RangedReader.seek at sought
  rcases found : seekTarget reader.len reader.position target with _ | position
  · rw [found] at sought
    cases sought
    exact ⟨rfl, rfl, rfl⟩
  · rw [found] at sought
    cases sought

theorem Follows.moved (follows : Follows file reader) (position : Nat) :
    Follows file { reader with position := position } :=
  ⟨follows.len, follows.window, follows.fetched⟩

/-! ## Filling a buffer -/

theorem readExactFrom_ok {fuel : Nat} {bytes : Bytes} (follows : Follows file reader)
    (fits : reader.len ≤ maxU64) (serves : ServesFile file network) (enough : count ≤ fuel)
    (isRead : readExactFrom network fuel count reader = (.ok bytes, after)) :
    Follows file after ∧ count ≤ file.length - reader.position ∧
      bytes = (file.drop reader.position).take count ∧
      after.position = reader.position + count := by
  induction fuel generalizing count reader bytes with
  | zero =>
      have none : count = 0 := Nat.le_zero.mp enough
      rw [none]
      cases isRead
      exact ⟨follows, Nat.zero_le _, (List.take_zero).symm, rfl⟩
  | succ fuel ih =>
      unfold readExactFrom at isRead
      by_cases none : count = 0
      · rw [if_pos none] at isRead
        rw [none]
        cases isRead
        exact ⟨follows, Nat.zero_le _, (List.take_zero).symm, rfl⟩
      · rw [if_neg none] at isRead
        rcases first : reader.read network count with ⟨found, next⟩
        rw [first] at isRead
        rcases found with error | _ | ⟨byte, more⟩
        · cases isRead
        · cases isRead
        · dsimp only at isRead
          rcases read_ok follows fits serves first with ⟨still, isPrefix, _, position⟩
          have shorter : (byte :: more).length ≤ count := by
            have bound := isPrefix.length_le
            unfold cursorRead at bound
            rw [List.length_take] at bound
            omega
          have positive : 0 < (byte :: more).length := Nat.succ_pos _
          rcases rest : readExactFrom network fuel (count - (byte :: more).length) next with
            ⟨found, last⟩
          rw [rest] at isRead
          rcases found with error | others
          · cases isRead
          · cases isRead
            have sameLen : next.len = reader.len := still.len.trans follows.len.symm
            rcases ih still (sameLen ▸ fits) (by omega) rest with
              ⟨finish, inFile, isOthers, finishes⟩
            have inData : (byte :: more).length ≤ (file.drop reader.position).length := by
              have bound := isPrefix.length_le
              unfold cursorRead at bound
              rw [List.length_take] at bound
              omega
            rw [List.length_drop] at inData
            refine ⟨finish, ?_, ?_, ?_⟩
            · rw [position] at inFile
              omega
            · have isFirst : byte :: more =
                  (file.drop reader.position).take (byte :: more).length := by
                rcases isPrefix with ⟨tail, split⟩
                have cut := congrArg (List.take (byte :: more).length) split
                rw [List.take_left'  rfl] at cut
                unfold cursorRead at cut
                rw [List.take_take, Nat.min_eq_left shorter] at cut
                exact cut
              have total : count = (byte :: more).length + (count - (byte :: more).length) := by
                omega
              rw [isOthers, position, ← List.drop_drop, total, List.take_add, ← total]
              exact congrArg (· ++ _) isFirst
            · rw [finishes, position]
              omega

/-- A buffer that cannot be filled for want of data cannot be filled from the
file either. -/
theorem readExactFrom_eof {fuel : Nat} (follows : Follows file reader) (fits : reader.len ≤ maxU64)
    (serves : ServesFile file network)
    (isRead : readExactFrom network fuel count reader = (.error error, after))
    (ended : error.kind = .unexpectedEof) : ¬ count ≤ file.length - reader.position := by
  induction fuel generalizing count reader with
  | zero => cases isRead
  | succ fuel ih =>
      unfold readExactFrom at isRead
      by_cases none : count = 0
      · rw [if_pos none] at isRead
        cases isRead
      · rw [if_neg none] at isRead
        rcases first : reader.read network count with ⟨found, next⟩
        rw [first] at isRead
        rcases found with error | _ | ⟨byte, more⟩
        · cases isRead
          rw [(read_error first).2] at ended
          cases ended
        · rcases read_ok follows fits serves first with ⟨_, _, nothing, _⟩
          have empty := congrArg List.length (nothing rfl)
          unfold cursorRead at empty
          rw [List.length_take, List.length_drop, List.length_nil] at empty
          omega
        · dsimp only at isRead
          rcases read_ok follows fits serves first with ⟨still, _, _, position⟩
          have sameLen : next.len = reader.len := still.len.trans follows.len.symm
          rcases rest : readExactFrom network fuel (count - (byte :: more).length) next with
            ⟨found, last⟩
          rw [rest] at isRead
          rcases found with error | others
          · cases isRead
            have short := ih still (sameLen ▸ fits) rest
            rw [position] at short
            omega
          · cases isRead

/-! ## Scripts -/

/-- The end of a script over a remote file, against its end over the file: the
same, or an error of the source that is not the end of the file. -/
def EndsAs {R : Type} (scanned : Except GgufError (R × Nat)) (after : RangedReader) :
    Except ParseError R -> Prop
  | .ok value => scanned = .ok (value, after.position)
  | .error (.gguf error) => scanned = .error error
  | .error (.io error) => error.kind ≠ .unexpectedEof

theorem endsAs_ofIoError {R : Type} {scanned : Except GgufError (R × Nat)}
    (truncated : error.kind = .unexpectedEof -> scanned = .error .truncated) :
    EndsAs scanned after (.error (ofIoError error)) := by
  unfold ofIoError
  by_cases ended : error.kind = .unexpectedEof
  · rw [if_pos ended]
    exact truncated ended
  · rw [if_neg ended]
    exact ended

theorem runRanged_follows {R : Type} (script : Script R) (follows : Follows file reader)
    (fits : reader.len ≤ maxU64) (serves : ServesFile file network)
    {result : Except ParseError R} (ran : script.runRanged network reader = (result, after)) :
    EndsAs (script.scan file reader.position) after result := by
  induction script generalizing reader with
  | done value =>
      cases ran
      rfl
  | fail error =>
      cases ran
      rfl
  | readExact count next ih =>
      unfold Script.runRanged at ran
      rcases isRead : readExactFrom network count count reader with ⟨found, reached⟩
      rw [isRead] at ran
      have scanned : forall bytes : Bytes, count ≤ file.length - reader.position ->
          bytes = (file.drop reader.position).take count ->
          (Script.readExact count next).scan file reader.position =
            (next bytes).scan file (reader.position + count) := by
        intro bytes inFile isBytes
        have filled : Scan.readExact (.truncated : GgufError) count file reader.position =
            .ok (bytes, reader.position + count) := by
          unfold Scan.readExact
          rw [if_pos inFile, isBytes]
        change (Scan.readExact (.truncated : GgufError) count file reader.position).bind
          (fun pair => (next pair.1).scan file pair.2) = _
        rw [filled]
        rfl
      rcases found with error | bytes
      · cases ran
        apply endsAs_ofIoError
        intro ended
        have short := readExactFrom_eof follows fits serves isRead ended
        change (Scan.readExact (.truncated : GgufError) count file reader.position).bind
          (fun pair => (next pair.1).scan file pair.2) = _
        unfold Scan.readExact
        rw [if_neg short]
        rfl
      · rcases readExactFrom_ok follows fits serves (Nat.le_refl count) isRead with
          ⟨still, inFile, isBytes, position⟩
        have sameLen : reached.len = reader.len := still.len.trans follows.len.symm
        have later := ih bytes still (sameLen ▸ fits) ran
        rw [scanned bytes inFile isBytes, ← position]
        exact later
  | seekForward count next ih =>
      unfold Script.runRanged at ran
      rcases sought : reader.seek (.current count) with ⟨found, reached⟩
      rw [sought] at ran
      rcases found with error | position
      · cases ran
        apply endsAs_ofIoError
        intro ended
        rw [(seek_error sought).2.2] at ended
        cases ended
      · rcases seek_current_ok sought with ⟨isPosition, rfl⟩
        have later := ih (follows.moved position) fits ran
        have scanned : (Script.seekForward count next).scan file reader.position =
            next.scan file (reader.position + count) := rfl
        rw [scanned, ← isPosition]
        exact later
  | streamPosition next ih =>
      unfold Script.runRanged at ran
      rcases sought : reader.seek (.current 0) with ⟨found, reached⟩
      rw [sought] at ran
      rcases found with error | position
      · cases ran
        apply endsAs_ofIoError
        intro ended
        rw [(seek_error sought).2.2] at ended
        cases ended
      · rcases @seek_current_ok reader _ 0 position sought with ⟨isPosition, rfl⟩
        have later := ih position (follows.moved position) fits ran
        have scanned : (Script.streamPosition next).scan file reader.position =
            (next reader.position).scan file reader.position := rfl
        rw [scanned]
        rw [isPosition] at later
        exact later

/-! ## Every run -/

theorem read_follows (follows : Follows file reader) (fits : reader.len ≤ maxU64)
    (serves : ServesFile file network) (bufLen : Nat) :
    Follows file (reader.read network bufLen).2 := by
  rcases isRead : reader.read network bufLen with ⟨found, after⟩
  rcases found with error | bytes
  · exact follows.onlyAsked (read_error isRead).1
  · exact (read_ok follows fits serves isRead).1

theorem seek_follows (follows : Follows file reader) (target : SeekFrom) :
    Follows file (reader.seek target).2 := by
  rcases sought : reader.seek target with ⟨found, after⟩
  rcases found with error | next
  · rw [(seek_error sought).2.1]
    exact follows
  · rw [(seek_ok sought).2]
    exact follows.moved next

theorem readExactFrom_follows (fuel count : Nat) (follows : Follows file reader)
    (fits : reader.len ≤ maxU64) (serves : ServesFile file network) :
    Follows file (readExactFrom network fuel count reader).2 := by
  induction fuel generalizing count reader with
  | zero => exact follows
  | succ fuel ih =>
      have first := read_follows follows fits serves count
      unfold readExactFrom
      by_cases none : count = 0
      · rw [if_pos none]
        exact follows
      · rw [if_neg none]
        rcases isRead : reader.read network count with ⟨found, next⟩
        rw [isRead] at first
        rcases found with error | _ | ⟨byte, more⟩
        · exact first
        · exact first
        · have sameLen : next.len = reader.len := first.len.trans follows.len.symm
          have later := ih (count - (byte :: more).length) first
            (sameLen ▸ fits)
          dsimp only
          rcases rest : readExactFrom network fuel (count - (byte :: more).length) next with
            ⟨found, last⟩
          rw [rest] at later
          rcases found with error | others
          · exact later
          · exact later

theorem runRanged_keeps {R : Type} (script : Script R) (follows : Follows file reader)
    (fits : reader.len ≤ maxU64) (serves : ServesFile file network) :
    Follows file (script.runRanged network reader).2 := by
  induction script generalizing reader with
  | done value => exact follows
  | fail error => exact follows
  | readExact count next ih =>
      have first := readExactFrom_follows count count follows fits serves
      unfold Script.runRanged
      rcases isRead : readExactFrom network count count reader with ⟨found, reached⟩
      rw [isRead] at first
      rcases found with error | bytes
      · exact first
      · exact ih bytes first (first.len.trans follows.len.symm ▸ fits)
  | seekForward count next ih =>
      have first := seek_follows follows (.current count)
      unfold Script.runRanged
      rcases sought : reader.seek (.current count) with ⟨found, reached⟩
      rw [sought] at first
      rcases found with error | position
      · exact first
      · exact ih first (first.len.trans follows.len.symm ▸ fits)
  | streamPosition next ih =>
      have first := seek_follows follows (.current 0)
      unfold Script.runRanged
      rcases sought : reader.seek (.current 0) with ⟨found, reached⟩
      rw [sought] at first
      rcases found with error | position
      · exact first
      · exact ih position first (first.len.trans follows.len.symm ▸ fits)

inductive Operation where
  | read (bufLen : Nat)
  | seek (target : SeekFrom)

namespace Operation

/-- The reader after a call, whatever the call returned. -/
def leaves (network : Network) (reader : RangedReader) : Operation -> RangedReader
  | read bufLen => (reader.read network bufLen).2
  | seek target => (reader.seek target).2

/-- The bytes of the window that a call asked for and was given. -/
def answered (network : Network) (reader : RangedReader) : Operation -> Nat
  | seek _ => 0
  | read bufLen =>
      if reader.len ≤ reader.position || bufLen = 0 || reader.inWindow then 0
      else
        match (reader.fill network).1 with
        | .ok () => reader.wanted
        | .error _ => 0

end Operation

def reached (network : Network) (reader : RangedReader) (operations : List Operation) :
    RangedReader :=
  operations.foldl (fun reader operation => operation.leaves network reader) reader

def answeredBytes (network : Network) : RangedReader -> List Operation -> Nat
  | _, [] => 0
  | reader, operation :: rest =>
      operation.answered network reader + answeredBytes network (operation.leaves network reader) rest

theorem leaves_follows (follows : Follows file reader) (fits : reader.len ≤ maxU64)
    (serves : ServesFile file network) (operation : Operation) :
    Follows file (operation.leaves network reader) := by
  cases operation with
  | read bufLen => exact read_follows follows fits serves bufLen
  | seek target => exact seek_follows follows target

theorem leaves_fetched (follows : Follows file reader) (fits : reader.len ≤ maxU64)
    (serves : ServesFile file network) (operation : Operation) :
    (operation.leaves network reader).fetched =
      reader.fetched + operation.answered network reader := by
  cases operation with
  | seek target =>
      change (reader.seek target).2.fetched = reader.fetched
      rcases sought : reader.seek target with ⟨found, next⟩
      rcases found with error | position
      · rw [(seek_error sought).2.1]
      · rw [(seek_ok sought).2]
  | read bufLen =>
      change (reader.read network bufLen).2.fetched = _
      unfold RangedReader.read Operation.answered
      dsimp only
      by_cases nothing : (decide (reader.len ≤ reader.position) || decide (bufLen = 0)) = true
      · rw [if_pos nothing, nothing]
        rfl
      · have inside : reader.position < reader.len ∧ bufLen ≠ 0 := by simpa using nothing
        rw [if_neg nothing, Bool.eq_false_iff.mpr nothing, Bool.false_or]
        by_cases inWindow : reader.inWindow = true
        · rw [if_pos inWindow, if_pos inWindow]
          rfl
        · rw [if_neg inWindow, if_neg inWindow]
          rcases isFill : reader.fill network with ⟨filled, next⟩
          rcases filled with error | ⟨⟩
          · change next.fetched = reader.fetched
            rw [(fill_error isFill).1]
          · exact (fill_ok follows fits serves inside.1 isFill).2.2.2

theorem reached_follows (operations : List Operation) (follows : Follows file reader)
    (fits : reader.len ≤ maxU64) (serves : ServesFile file network) :
    Follows file (reached network reader operations) ∧
      (reached network reader operations).fetched =
        reader.fetched + answeredBytes network reader operations := by
  induction operations generalizing reader with
  | nil => exact ⟨follows, rfl⟩
  | cons operation rest ih =>
      have next := leaves_follows follows fits serves operation
      have fetched := leaves_fetched follows fits serves operation
      rcases ih next (next.len.trans follows.len.symm ▸ fits) with ⟨still, total⟩
      refine ⟨still, ?_⟩
      rw [fetched] at total
      exact total.trans (Nat.add_assoc _ _ _)

theorem new_follows (file : Bytes) (url : String) :
    Follows file (RangedReader.new url file.length) :=
  ⟨rfl, List.nil_prefix, Nat.zero_le _⟩

/-- An answer that carries the whole window is taken over. -/
theorem accept_answered (status : response.status = 206)
    (start : contentRangeStart response = some reader.position)
    (whole : reader.wanted ≤ response.body.length) :
    exists filled, reader.accept response = .ok filled := by
  have body : readBody response reader.wanted = .ok (response.body.take reader.wanted) :=
    if_pos whole
  have length : (response.body.take reader.wanted).length = reader.wanted := by
    rw [List.length_take]
    exact Nat.min_eq_left whole
  unfold RangedReader.accept
  rw [if_neg (not_not.mpr status), if_neg (not_not.mpr start), body]
  dsimp only
  rw [if_neg (not_not.mpr length)]
  exact ⟨_, rfl⟩

/-- A read whose window is answered in full goes on. -/
theorem read_answered
    (sent : send network (some s!"bytes={reader.position}-{reader.windowEnd - 1}")
      "the model file" reader.url reader.requests = (.ok response, requests))
    (status : response.status = 206) (start : contentRangeStart response = some reader.position)
    (whole : reader.wanted ≤ response.body.length)
    (few : reader.fetched + reader.wanted ≤ maxFetchBytes) :
    exists bytes after, reader.read network bufLen = (.ok bytes, after) := by
  have notTooMuch : ¬ maxFetchBytes < saturatingAdd reader.fetched reader.wanted :=
    Nat.not_lt.mpr (Nat.le_trans (Nat.min_le_left _ _) few)
  have accepted : exists filled,
      ({ reader with requests := requests } : RangedReader).accept response = .ok filled :=
    accept_answered status start whole
  rcases accepted with ⟨next, accepted⟩
  have isFill : reader.fill network = (.ok (), next) := by
    unfold RangedReader.fill
    rw [if_neg notTooMuch, sent]
    dsimp only
    rw [accepted]
  unfold RangedReader.read
  by_cases nothing : (decide (reader.len ≤ reader.position) || decide (bufLen = 0)) = true
  · rw [if_pos nothing]
    exact ⟨_, _, rfl⟩
  · rw [if_neg nothing]
    by_cases inWindow : reader.inWindow = true
    · rw [if_pos inWindow]
      exact ⟨_, _, rfl⟩
    · rw [if_neg inWindow, isFill]
      exact ⟨_, _, rfl⟩

/-- After any calls, every result of a remote reader is that of a cursor over
the file, at most cut short; a failed call leaves the reader as it was, and a
retry that is answered goes on; the windows that were answered stay within the
limit; and a parse ends as over the file or with an error of the source. -/
theorem remote_reads_equal_local (file : Bytes) (fits : file.length ≤ maxU64) (network : Network)
    (serves : ServesFile file network) (url : String) (operations : List Operation)
    (reader : RangedReader)
    (isReader : reader = reached network (RangedReader.new url file.length) operations) :
    (forall bufLen bytes after, reader.read network bufLen = (.ok bytes, after) ->
      bytes <+: cursorRead file reader.position bufLen ∧
        (bytes = [] -> cursorRead file reader.position bufLen = []) ∧
        after.position = reader.position + bytes.length) ∧
    (forall target next after, reader.seek target = (.ok next, after) ->
      seekTarget file.length reader.position target = some next ∧ after.position = next) ∧
    (forall bufLen error after, reader.read network bufLen = (.error error, after) ->
      OnlyAsked reader after) ∧
    (forall target error after, reader.seek target = (.error error, after) ->
      seekTarget file.length reader.position target = none ∧ after = reader) ∧
    (forall bufLen requests response,
      send network (some s!"bytes={reader.position}-{reader.windowEnd - 1}") "the model file"
        reader.url reader.requests = (.ok response, requests) ->
      response.status = 206 -> contentRangeStart response = some reader.position ->
      reader.wanted ≤ response.body.length -> reader.fetched + reader.wanted ≤ maxFetchBytes ->
      exists bytes after, reader.read network bufLen = (.ok bytes, after)) ∧
    answeredBytes network (RangedReader.new url file.length) operations ≤ maxFetchBytes ∧
    (parseGgufHeaderRanged network reader).2.fetched ≤ maxFetchBytes ∧
    EndsAs (parseGgufHeader file reader.position) (parseGgufHeaderRanged network reader).2
      (parseGgufHeaderRanged network reader).1 := by
  rcases reached_follows operations (new_follows file url) fits serves with ⟨follows, fetched⟩
  rw [← isReader] at follows fetched
  have readerFits : reader.len ≤ maxU64 := by
    rw [follows.len]
    exact fits
  refine ⟨fun bufLen bytes after isRead => (read_ok follows readerFits serves isRead).2,
    fun target next after sought => ?_, fun bufLen error after isRead => (read_error isRead).1,
    fun target error after sought => ?_,
    fun bufLen requests response sent status start whole few =>
      read_answered sent status start whole few, ?_,
    (runRanged_keeps Script.parseGgufHeader follows readerFits serves).fetched, ?_⟩
  · rcases seek_ok sought with ⟨target, rfl⟩
    rw [follows.len] at target
    exact ⟨target, rfl⟩
  · rcases seek_error sought with ⟨target, same, _⟩
    rw [follows.len] at target
    exact ⟨target, same⟩
  · have bound := follows.fetched
    rw [fetched] at bound
    exact Nat.le_trans (Nat.le_add_left _ _) bound
  · have ends : EndsAs _ (parseGgufHeaderRanged network reader).2
        (parseGgufHeaderRanged network reader).1 :=
      runRanged_follows Script.parseGgufHeader follows readerFits serves rfl
    rw [Script.scan_parseGgufHeader] at ends
    exact ends

def sampleFile : Bytes := [0x47, 0x47, 0x55, 0x46]

/-- A server that sends more than it is asked for, and always from the start. -/
def sampleNetwork : Network := fun _ _ _ =>
  .response ⟨206, none, some "bytes 0-3/4", sampleFile ++ [0x00], none⟩

theorem sampleNetwork_serves : ServesFile sampleFile sampleNetwork := by
  intro requests url range response start came status isStart count inBody inFile
  cases came
  have zero : contentRangeStart
      ⟨206, none, some "bytes 0-3/4", sampleFile ++ [0x00], none⟩ = some 0 := by decide
  rw [zero] at isStart
  cases isStart
  exact List.take_append_of_le_length inFile

def sampleReader : RangedReader :=
  reached sampleNetwork (RangedReader.new "https://huggingface.co/x" 4) [.read 2]

/-- After two bytes are read the reader goes on as the cursor does. -/
theorem sample_reads :
    (sampleReader.read sampleNetwork 8).1.toOption = some [0x55, 0x46] ∧
      [0x55, 0x46] <+: cursorRead sampleFile sampleReader.position 8 := by
  have isRead : (sampleReader.read sampleNetwork 8).1.toOption = some [0x55, 0x46] := by
    decide
  refine ⟨isRead, ?_⟩
  have reads := (remote_reads_equal_local sampleFile (by decide) sampleNetwork
    sampleNetwork_serves "https://huggingface.co/x" [.read 2] sampleReader rfl).1
  rcases result : sampleReader.read sampleNetwork 8 with ⟨error | bytes, after⟩
  · rw [result] at isRead
    cases isRead
  · have isPrefix := (reads 8 bytes after result).1
    rw [result] at isRead
    rwa [← Option.some.inj isRead]

end Gguf
end RocmCli
