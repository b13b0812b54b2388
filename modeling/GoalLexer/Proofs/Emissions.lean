import GoalLexer.Proofs.Reports
import GoalLexer.Proofs.TraceReplay
import GoalLexer.Proofs.Trivia

/-!
# What becomes of the caller's diagnostics

A caller may emit diagnostics of its own between its requests. A look-ahead that is
given up takes the log back to the length it had before the look, and with that it
forgets more than the report of its own token: everything the caller has emitted since
the look goes too (`Lexer.given_up_look_loses_emission`).

Which emissions stay is decided by the acts of the caller alone, whatever the source.
`Standing` keeps the account: an emission is settled at once if no look-ahead is
pending, and else at stake until a pull under the same goal settles it, or a request
under another goal loses it. The log then is an interleaving of the emissions that are
settled or at stake and the reports of the tokens pulled or looked at
(`Lexer.emissions_stay_unless_given_up`).

The books of a lexer, `Lexer.Books`, say this of the log before the look and of the log
since the look apart, as only the first part outlives a look-ahead given up. Every act
keeps them (`Books.obey`), and so does every run (`Books.drive`). They need no room for
the counters: a run that ends without a fault keeps them for every source.
-/

set_option autoImplicit false

namespace GoalLexer

/-! ## Interleavings -/

/-- The third list merges the first two and keeps the order of each. -/
inductive Interleaves {α : Type} : List α → List α → List α → Prop
  | nil : Interleaves [] [] []
  | left {xs ys zs : List α} (x : α) : Interleaves xs ys zs → Interleaves (x :: xs) ys (x :: zs)
  | right {xs ys zs : List α} (y : α) : Interleaves xs ys zs → Interleaves xs (y :: ys) (y :: zs)

namespace Interleaves

variable {α : Type} {xs ys zs xs' ys' zs' : List α}

theorem append (first : Interleaves xs ys zs) (second : Interleaves xs' ys' zs') :
    Interleaves (xs ++ xs') (ys ++ ys') (zs ++ zs') := by
  induction first with
  | nil => exact second
  | left x _ ih => exact ih.left x
  | right y _ ih => exact ih.right y

theorem onlyLeft (xs : List α) : Interleaves xs [] xs := by
  induction xs with
  | nil => exact nil
  | cons x xs ih => exact ih.left x

theorem onlyRight (ys : List α) : Interleaves [] ys ys := by
  induction ys with
  | nil => exact nil
  | cons y ys ih => exact ih.right y

theorem left_sublist (merged : Interleaves xs ys zs) : xs.Sublist zs := by
  induction merged with
  | nil => exact .slnil
  | left x _ ih => exact ih.cons_cons x
  | right y _ ih => exact ih.cons y

end Interleaves

/-! ## The acts of a caller -/

/-- What a caller may do that neither cuts nor clears the log. -/
inductive Act where
  | ask (query : Query)
  | emit (d : Diagnostic)
  deriving DecidableEq

namespace Act

def command : Act → Command
  | ask query => .ask query.request
  | emit d => .emit d

def emitted : Act → List Diagnostic
  | ask _ => []
  | emit d => [d]

/-- The token that an act takes out of the source. -/
def pulled : Act → Option Reply → List Token
  | ask (.pull _), some (.token t) => [t]
  | _, _ => []

@[simp] theorem pulled_emit (d : Diagnostic) (reply : Option Reply) :
    (emit d).pulled reply = [] := rfl

@[simp] theorem pulled_look (goal : Goal) (reply : Option Reply) :
    (ask (.look goal)).pulled reply = [] := rfl

/-- The diagnostics that the caller emits, in order. -/
def emissions (acts : List Act) : List Diagnostic := acts.flatMap emitted

@[simp] theorem emissions_nil : emissions [] = [] := rfl

@[simp] theorem emissions_cons (act : Act) (acts : List Act) :
    emissions (act :: acts) = act.emitted ++ emissions acts := rfl

/-- The tokens pulled, in order. -/
def consumed : List Act → List (Option Reply × Place) → List Token
  | act :: acts, (reply, _) :: replies => act.pulled reply ++ consumed acts replies
  | _, _ => []

@[simp] theorem consumed_nil (replies : List (Option Reply × Place)) :
    consumed [] replies = [] := rfl

@[simp] theorem consumed_cons (act : Act) (acts : List Act) (reply : Option Reply) (p : Place)
    (replies : List (Option Reply × Place)) :
    consumed (act :: acts) ((reply, p) :: replies) = act.pulled reply ++ consumed acts replies :=
  rfl

end Act

/-! ## The fate of an emission -/

/-- What has become of the diagnostics that a caller emitted. -/
structure Standing where
  /-- Those that no later act can remove. -/
  settled : List Diagnostic := []
  /-- The goal of the look-ahead that is pending, and those emitted since the look. -/
  atStake : Option (Goal × List Diagnostic) := none
  /-- Those emitted behind a look-ahead that was given up. -/
  lost : List Diagnostic := []
  deriving DecidableEq

namespace Standing

def staked (s : Standing) : List Diagnostic := s.atStake.toList.flatMap (·.2)

def survivors (s : Standing) : List Diagnostic := s.settled ++ s.staked

/-- Whether a look-ahead under this goal is pending. -/
def holds (s : Standing) (goal : Goal) : Bool := s.atStake.any (·.1 = goal)

def emit (s : Standing) (d : Diagnostic) : Standing :=
  match s.atStake with
  | none => { s with settled := s.settled ++ [d] }
  | some (goal, since) => { s with atStake := some (goal, since ++ [d]) }

/-- The look-ahead is handed out. -/
def settle (s : Standing) : Standing := { s with settled := s.survivors, atStake := none }

/-- The look-ahead, if there is one, is given up. -/
def giveUp (s : Standing) : Standing := { s with atStake := none, lost := s.lost ++ s.staked }

/-- The look-ahead, if there is one, is given up for a fresh one. -/
def renew (s : Standing) (goal : Goal) : Standing :=
  { s.giveUp with atStake := some (goal, []) }

def act (s : Standing) : Act → Standing
  | .emit d => s.emit d
  | .ask (.pull goal) => if s.holds goal then s.settle else s.giveUp
  | .ask (.look goal) => if s.holds goal then s else s.renew goal

/-- The standing after all acts of a caller. -/
def after (acts : List Act) : Standing := acts.foldl act {}

section Acts

variable (s : Standing)

/-- Without look-ahead there is nothing to give up. -/
theorem giveUp_of_none (free : s.atStake = none) : s.giveUp = s := by
  obtain ⟨settled, atStake, lost⟩ := s
  cases free
  simp [giveUp, staked]

theorem holds_of_none (free : s.atStake = none) (goal : Goal) : s.holds goal = false := by
  rw [holds, free]
  rfl

theorem holds_of_some {under goal : Goal} {since : List Diagnostic}
    (pending : s.atStake = some (under, since)) : s.holds goal = decide (under = goal) := by
  rw [holds, pending]
  rfl

@[simp] theorem survivors_emit (d : Diagnostic) : (s.emit d).survivors = s.survivors ++ [d] := by
  unfold emit survivors staked
  cases pending : s.atStake with
  | none => simp
  | some held => simp

@[simp] theorem lost_emit (d : Diagnostic) : (s.emit d).lost = s.lost := by
  unfold emit
  split <;> rfl

@[simp] theorem survivors_settle : s.settle.survivors = s.survivors := by
  simp [survivors, settle, staked]

@[simp] theorem survivors_giveUp : s.giveUp.survivors = s.settled := by
  simp [survivors, giveUp, staked]

/-- A fresh look-ahead has nothing at stake. -/
@[simp] theorem survivors_renew (goal : Goal) : (s.renew goal).survivors = s.settled := by
  simp [survivors, renew, giveUp, staked]

/-- What an act does: an emission is added, and a request leaves the account alone,
settles what is at stake, or gives it up, perhaps for a fresh look-ahead. -/
theorem act_cases (a : Act) :
    (∃ d, a = .emit d ∧ s.act a = s.emit d) ∨
    (a.emitted = [] ∧ (s.act a = s ∨ s.act a = s.settle ∨ s.act a = s.giveUp ∨
      ∃ goal, s.act a = s.renew goal)) := by
  cases a with
  | emit d => exact .inl ⟨d, rfl, rfl⟩
  | ask query =>
      refine .inr ⟨rfl, ?_⟩
      cases query with
      | pull goal =>
          rw [act]
          split
          · exact .inr (.inl rfl)
          · exact .inr (.inr (.inl rfl))
      | look goal =>
          rw [act]
          split
          · exact .inl rfl
          · exact .inr (.inr (.inr ⟨goal, rfl⟩))

/-- **One act** never unsettles an emission. -/
theorem settled_isPrefix_act (a : Act) : s.settled <+: (s.act a).settled := by
  obtain ⟨d, -, acted⟩ | ⟨-, acted | acted | acted | ⟨goal, acted⟩⟩ := s.act_cases a
  · rw [acted, emit]
    split
    · exact List.prefix_append _ _
    · exact List.prefix_rfl
  · exact ⟨[], by rw [acted, List.append_nil]⟩
  · exact ⟨s.staked, by rw [acted, settle, survivors]⟩
  · exact ⟨[], by rw [acted, giveUp, List.append_nil]⟩
  · exact ⟨[], by rw [acted, renew, giveUp, List.append_nil]⟩

/-- **One act** keeps the survivors in the order of their emission. -/
theorem survivors_act_sublist (a : Act) :
    (s.act a).survivors.Sublist (s.survivors ++ a.emitted) := by
  have kept : s.settled.Sublist s.survivors := List.sublist_append_left _ _
  obtain ⟨d, rfl, acted⟩ | ⟨silent, acted⟩ := s.act_cases a
  · rw [acted, survivors_emit]
    exact List.Sublist.refl _
  · rw [silent, List.append_nil]
    obtain acted | acted | acted | ⟨goal, acted⟩ := acted <;> rw [acted]
    · rw [survivors_settle]
    · rwa [survivors_giveUp]
    · rwa [survivors_renew]

/-- What is given up is lost. -/
theorem settled_append_lost_giveUp : (s.settled ++ s.giveUp.lost).Perm (s.survivors ++ s.lost) := by
  rw [giveUp, survivors, List.append_assoc]
  exact List.perm_append_comm.append_left _

/-- **One act** makes every emission a survivor or lost. -/
theorem survivors_act_perm (a : Act) :
    ((s.act a).survivors ++ (s.act a).lost).Perm (s.survivors ++ s.lost ++ a.emitted) := by
  obtain ⟨d, rfl, acted⟩ | ⟨silent, acted⟩ := s.act_cases a
  · rw [acted, survivors_emit, lost_emit, List.append_assoc, List.append_assoc]
    exact List.perm_append_comm.append_left _
  · rw [silent, List.append_nil]
    obtain acted | acted | acted | ⟨goal, acted⟩ := acted <;> rw [acted]
    · rw [survivors_settle]
      exact .refl _
    · rw [survivors_giveUp]
      exact s.settled_append_lost_giveUp
    · rw [survivors_renew]
      exact s.settled_append_lost_giveUp

/-! ### All acts -/

theorem settled_isPrefix_foldl (acts : List Act) : s.settled <+: (acts.foldl act s).settled := by
  induction acts generalizing s with
  | nil => exact List.prefix_rfl
  | cons a acts ih => exact (s.settled_isPrefix_act a).trans (ih (s.act a))

theorem survivors_foldl_sublist (acts : List Act) :
    (acts.foldl act s).survivors.Sublist (s.survivors ++ Act.emissions acts) := by
  induction acts generalizing s with
  | nil => simp
  | cons a acts ih =>
      refine (ih (s.act a)).trans ?_
      rw [Act.emissions_cons, ← List.append_assoc]
      exact (s.survivors_act_sublist a).append_right _

theorem survivors_foldl_perm (acts : List Act) :
    ((acts.foldl act s).survivors ++ (acts.foldl act s).lost).Perm
      (s.survivors ++ s.lost ++ Act.emissions acts) := by
  induction acts generalizing s with
  | nil => simp
  | cons a acts ih =>
      refine (ih (s.act a)).trans ?_
      rw [Act.emissions_cons, ← List.append_assoc]
      exact (s.survivors_act_perm a).append_right _

end Acts

/-- What is settled stays settled, whatever the caller does next. -/
theorem settled_after_isPrefix (acts more : List Act) :
    (after acts).settled <+: (after (acts ++ more)).settled := by
  rw [after, after, List.foldl_append]
  exact settled_isPrefix_foldl _ more

/-- If nothing is lost, all emissions survive in their order. -/
theorem survivors_after_of_lost_eq_nil {acts : List Act} (kept : (after acts).lost = []) :
    (after acts).survivors = Act.emissions acts := by
  have sublist := survivors_foldl_sublist {} acts
  have perm := survivors_foldl_perm {} acts
  rw [after] at kept
  rw [kept, List.append_nil] at perm
  exact sublist.eq_of_length perm.length_eq

end Standing

/-! ## What a request records -/

namespace Token

/-- The reports of the tokens that carry an error, in order. -/
def reports (file : SourceFile) (tokens : List Token) : List Diagnostic :=
  tokens.filterMap (·.report file)

theorem reports_concat (file : SourceFile) (tokens : List Token) (t : Token) :
    reports file (tokens ++ [t]) = reports file tokens ++ (t.report file).toList := by
  unfold reports
  cases carried : t.report file with
  | none => simp [carried]
  | some d => simp [carried]

end Token

namespace Lexer

variable {lx after : Lexer} {goal : Goal} {t : Token}

/-- From `lx` to `after` the log has gained the report of `t`, and nothing else. -/
structure Records (lx : Lexer) (t : Token) (after : Lexer) : Prop where
  log : after.log.toList = lx.log.toList ++ (t.report lx.sourceFile).toList
  file : after.sourceFile = lx.sourceFile
  lookahead : after.lookahead = lx.lookahead

theorem records_of_scanOne (scanned : lx.scanOne goal = .ok (t, after)) : lx.Records t after := by
  obtain ⟨rfl, rfl⟩ := eq_of_scanOne scanned
  exact ⟨DiagnosticLog.toList_record _ _, by simp [took, sourceFile], rfl⟩

/-- Trivia are not reported. -/
theorem records_of_trivia {next last : Lexer} {skipped : Token}
    (scanned : lx.scanOne goal = .ok (skipped, next)) (trivia : skipped.kind.isTrivia = true)
    (rest : next.Records t last) : lx.Records t last := by
  have here := records_of_scanOne scanned
  have silent : skipped.report lx.sourceFile = none := by
    obtain ⟨rfl, -⟩ := eq_of_scanOne scanned
    exact Place.report_of_not_isError _ (Token.not_isError_of_isTrivia trivia).1
  have log := here.log
  rw [silent, Option.toList_none, List.append_nil] at log
  refine ⟨?_, rest.file.trans here.file, rest.lookahead.trans here.lookahead⟩
  rw [rest.log, log, here.file]

theorem records_of_scanAux {fuel : List Char}
    (scanned : scanAux goal fuel lx = .ok (t, after)) : lx.Records t after := by
  induction fuel generalizing lx with
  | nil =>
      obtain ⟨_, one, done⟩ := exists_of_bind_eq_ok scanned
      cases done
      obtain ⟨log, file, lookahead⟩ := records_of_scanOne one
      exact ⟨log, file, lookahead⟩
  | cons c fuel ih =>
      obtain ⟨_, one, done⟩ := exists_of_bind_eq_ok scanned
      dsimp only at done
      split at done
      · rename_i skipped
        exact records_of_trivia one (Bool.and_eq_true_iff.1 skipped).1 (ih done)
      · cases done
        obtain ⟨log, file, lookahead⟩ := records_of_scanOne one
        exact ⟨log, file, lookahead⟩

/-! ## The books of a lexer -/

/-- The log interleaves the emissions that survive with the reports of the tokens
`consumed` and of the one looked at. Behind a look-ahead, what was recorded before the
look stands apart from what was recorded since. -/
inductive Books (file : SourceFile) (s : Standing) (consumed : List Token) (lx : Lexer) : Prop
  | free (sameFile : lx.sourceFile = file) (free : lx.lookahead = none)
      (unstaked : s.atStake = none)
      (log : Interleaves s.settled (Token.reports file consumed) lx.log.toList)
  | held {ahead : Lookahead} {kept since emitted : List Diagnostic}
      (sameFile : lx.sourceFile = file) (held : lx.lookahead = some ahead)
      (staked : s.atStake = some (ahead.goal, emitted))
      (log : lx.log.toList = kept ++ since) (logged : ahead.logged = kept.length)
      (before : Interleaves s.settled (Token.reports file consumed) kept)
      (behind : Interleaves emitted (ahead.token.report file).toList since)

namespace Books

variable {file : SourceFile} {s : Standing} {consumed : List Token}

theorem unstaked_of_none (books : Books file s consumed lx) (free : lx.lookahead = none) :
    s.atStake = none := by
  cases books with
  | free _ _ unstaked _ => exact unstaked
  | held _ held _ _ _ _ _ =>
      rw [free] at held
      cases held

theorem staked_of_some {ahead : Lookahead} (books : Books file s consumed lx)
    (held : lx.lookahead = some ahead) : ∃ emitted, s.atStake = some (ahead.goal, emitted) := by
  cases books with
  | free _ free _ _ =>
      rw [free] at held
      cases held
  | held _ known staked _ _ _ _ =>
      rw [known] at held
      cases held
      exact ⟨_, staked⟩

/-- All told, the log interleaves the survivors with the reports. -/
theorem interleaves (books : Books file s consumed lx) :
    Interleaves s.survivors (Token.reports file (consumed ++ lx.pending)) lx.log.toList := by
  unfold Standing.survivors Standing.staked pending
  cases books with
  | free _ free unstaked log =>
      rw [free, unstaked]
      simpa using log
  | held _ held staked log _ before behind =>
      rw [held, staked, log, Option.toList_some, Option.toList_some, List.map_singleton,
        Token.reports_concat]
      simpa using before.append behind

/-- An emission is settled, or at stake behind a look-ahead. -/
theorem emit (books : Books file s consumed lx) (d : Diagnostic) :
    Books file (s.emit d) consumed (lx.mapLog (·.emit d)) := by
  have one := Interleaves.onlyLeft [d]
  unfold Standing.emit
  cases books with
  | free sameFile free unstaked log =>
      rw [unstaked]
      refine .free sameFile free rfl ?_
      simpa [mapLog] using log.append one
  | @held ahead kept since emitted sameFile held staked log logged before behind =>
      rw [staked]
      have grown : (lx.mapLog (·.emit d)).log.toList = kept ++ (since ++ [d]) := by
        simp [mapLog, log]
      refine .held sameFile held rfl grown logged before ?_
      simpa using behind.append one

/-- A look-ahead given up forgets all that was recorded since the look. -/
theorem discard {ahead : Lookahead} (books : Books file s consumed lx)
    (held : lx.lookahead = some ahead) : Books file s.giveUp consumed (lx.discard ahead) := by
  cases books with
  | free _ free _ _ =>
      rw [free] at held
      cases held
  | held sameFile known _ log logged before _ =>
      rw [known] at held
      cases held
      refine .free sameFile rfl rfl ?_
      have cut : (lx.discard ahead).log.toList = lx.log.toList.take ahead.logged :=
        DiagnosticLog.toList_truncate _ _
      rw [cut, log, logged, List.take_left]
      exact before

/-- Without look-ahead a scan records the token that is pulled. -/
theorem scan (books : Books file s consumed lx) (free : lx.lookahead = none)
    (scanned : lx.scan goal = .ok (t, after)) : Books file s (consumed ++ [t]) after := by
  have records := records_of_scanAux scanned
  cases books with
  | held _ held _ _ _ _ _ =>
      rw [free] at held
      cases held
  | free sameFile free unstaked log =>
      refine .free (records.file.trans sameFile) (records.lookahead.trans free) unstaked ?_
      rw [records.log, sameFile, Token.reports_concat]
      simpa using log.append (Interleaves.onlyRight (t.report file).toList)

/-- Without look-ahead a look puts nothing at stake yet. -/
theorem look (books : Books file s consumed lx) (free : lx.lookahead = none)
    (looked : lx.look goal = .ok (t, after)) :
    Books file { s with atStake := some (goal, []) } consumed after := by
  obtain ⟨_, scanned, done⟩ := exists_of_bind_eq_ok looked
  cases done
  have records := records_of_scanAux scanned
  cases books with
  | held _ held _ _ _ _ _ =>
      rw [free] at held
      cases held
  | free sameFile free unstaked log =>
      refine .held (records.file.trans sameFile) rfl rfl records.log ?_ log ?_
      · simp [DiagnosticLog.toList, DiagnosticLog.size]
      · rw [sameFile]
        exact Interleaves.onlyRight _

/-- A look-ahead that is handed out settles what is at stake. -/
theorem handOut {ahead : Lookahead} (books : Books file s consumed lx)
    (held : lx.lookahead = some ahead) :
    Books file s.settle (consumed ++ [ahead.token]) { lx with lookahead := none } := by
  have all := books.interleaves
  rw [pending, held] at all
  cases books with
  | free sameFile _ _ _ => exact .free sameFile rfl rfl all
  | held sameFile _ _ _ _ _ _ => exact .free sameFile rfl rfl all

/-- **A pull** settles what is at stake under its goal, and loses it under another. -/
theorem next (books : Books file s consumed lx) (pulled : lx.next goal = .ok (t, after)) :
    Books file (s.act (.ask (.pull goal))) (consumed ++ [t]) after := by
  rw [Standing.act]
  obtain ⟨free, scanned⟩ | ⟨ahead, held, handed⟩ := next_cases pulled
  · have unstaked := books.unstaked_of_none free
    rw [s.holds_of_none unstaked, s.giveUp_of_none unstaked]
    exact books.scan free scanned
  · obtain ⟨emitted, staked⟩ := books.staked_of_some held
    rw [s.holds_of_some staked]
    obtain ⟨same, rfl, rfl⟩ | ⟨other, scanned⟩ := handed
    · rw [if_pos (decide_eq_true same)]
      exact books.handOut held
    · rw [decide_eq_false other]
      exact (books.discard held).scan rfl scanned

/-- **A look** leaves alone what is at stake under its goal, and loses it under
another. -/
theorem peek (books : Books file s consumed lx) (looked : lx.peek goal = .ok (t, after)) :
    Books file (s.act (.ask (.look goal))) consumed after := by
  rw [Standing.act]
  obtain ⟨free, fresh⟩ | ⟨ahead, held, found⟩ := peek_cases looked
  · have unstaked := books.unstaked_of_none free
    rw [s.holds_of_none unstaked, Standing.renew, s.giveUp_of_none unstaked]
    exact books.look free fresh
  · obtain ⟨emitted, staked⟩ := books.staked_of_some held
    rw [s.holds_of_some staked]
    obtain ⟨same, -, rfl⟩ | ⟨other, fresh⟩ := found
    · rw [if_pos (decide_eq_true same)]
      exact books
    · rw [decide_eq_false other]
      exact (books.discard held).look rfl fresh

/-- **One act** keeps the books. -/
theorem obey (books : Books file s consumed lx) {act : Act} {reply : Option Reply}
    (obeyed : lx.obey act.command = .ok (reply, after)) :
    Books file (s.act act) (consumed ++ act.pulled reply) after := by
  cases act with
  | emit d =>
      cases obeyed
      rw [Act.pulled_emit, List.append_nil]
      exact books.emit d
  | ask query =>
      obtain ⟨_, served, done⟩ := exists_of_bind_eq_ok obeyed
      cases done
      cases query with
      | pull goal =>
          obtain ⟨_, pulled, told⟩ := exists_of_bind_eq_ok served
          cases told
          exact books.next pulled
      | look goal =>
          obtain ⟨_, looked, told⟩ := exists_of_bind_eq_ok served
          cases told
          rw [Act.pulled_look, List.append_nil]
          exact books.peek looked

/-- **Every run** keeps the books. -/
theorem drive (books : Books file s consumed lx) {acts : List Act}
    {replies : List (Option Reply × Place)}
    (run : lx.drive (acts.map Act.command) = .ok (replies, after)) :
    Books file (acts.foldl Standing.act s) (consumed ++ Act.consumed acts replies) after := by
  induction acts generalizing lx s consumed replies with
  | nil =>
      cases run
      rw [Act.consumed_nil, List.append_nil]
      exact books
  | cons act acts ih =>
      obtain ⟨⟨reply, next⟩, obeyed, rest⟩ := exists_of_bind_eq_ok run
      obtain ⟨⟨replies, last⟩, later, done⟩ := exists_of_bind_eq_ok rest
      cases done
      rw [Act.consumed_cons, ← List.append_assoc]
      exact ih (books.obey obeyed) later

end Books

theorem create_books (name source : String) (options : Options) :
    Books ⟨name, source⟩ {} [] (create name source options) :=
  .free rfl rfl rfl .nil

/-- **Emissions stay unless a look-ahead is given up.** A caller may pull and look under
any goals and emit diagnostics of its own in between. All its acts are obeyed if the
source is short enough for the counters; and for every source, if they are obeyed,

* the log interleaves the emissions that survive with the reports of the tokens pulled
  and of the one looked at, and holds nothing else;
* what was settled after some of the acts is still in the log after all of them, in the
  order of emission;
* the survivors keep the order of emission, and all other emissions are lost: they were
  emitted behind a look-ahead that a request under another goal gave up;
* so if none is lost, all emissions are in the log, in order. -/
theorem emissions_stay_unless_given_up (name source : String) (options : Options)
    (acts : List Act) :
    (source.utf8ByteSize < counterBound - 1 →
      ∃ replies lx,
        (create name source options).drive (acts.map Act.command) = .ok (replies, lx)) ∧
    ∀ replies lx,
      (create name source options).drive (acts.map Act.command) = .ok (replies, lx) →
      Interleaves (Standing.after acts).survivors
        (Token.reports ⟨name, source⟩ (Act.consumed acts replies ++ lx.pending))
        lx.log.toList ∧
      (∀ earlier later, earlier ++ later = acts →
        (Standing.after earlier).settled.Sublist lx.log.toList) ∧
      (Standing.after acts).survivors.Sublist (Act.emissions acts) ∧
      ((Standing.after acts).survivors ++ (Standing.after acts).lost).Perm
        (Act.emissions acts) ∧
      ((Standing.after acts).lost = [] → (Act.emissions acts).Sublist lx.log.toList) := by
  refine ⟨?_, ?_⟩
  · intro short
    obtain ⟨replies, lx, run, -⟩ :=
      (create_aligned name options short).drive (acts.map Act.command)
    exact ⟨replies, lx, run⟩
  · intro replies lx run
    have merged := ((create_books name source options).drive run).interleaves
    have inLog : (Standing.after acts).survivors.Sublist lx.log.toList := merged.left_sublist
    refine ⟨merged, ?_, Standing.survivors_foldl_sublist {} acts,
      Standing.survivors_foldl_perm {} acts, ?_⟩
    · rintro earlier later rfl
      have settled := (Standing.settled_after_isPrefix earlier later).sublist
      exact (settled.trans (List.sublist_append_left _ _)).trans inLog
    · intro kept
      rwa [Standing.survivors_after_of_lost_eq_nil kept] at inLog

/-- Three warnings: one before the look, one behind it, and one after a pull has given
the look-ahead up and reported the same error again. The second is lost. -/
theorem emissions_stay_unless_given_up_hash :
    "#".utf8ByteSize < counterBound - 1 ∧
      ∃ acts replies lx,
        acts = [.emit { severity := .warning, message := "a" }, .ask (.look .regExp),
          .emit { severity := .warning, message := "b" }, .ask (.pull .div),
          .emit { severity := .warning, message := "c" }] ∧
        (create "a.js" "#" {}).drive (acts.map Act.command) = .ok (replies, lx) ∧
        (Standing.after acts).lost.map (·.message) = ["b"] ∧
        (Standing.after acts).survivors.map (·.message) = ["a", "c"] ∧
        lx.log.toList.map (·.severity) = [.warning, .error, .warning] ∧
        Interleaves (Standing.after acts).survivors
          (Token.reports ⟨"a.js", "#"⟩ (Act.consumed acts replies ++ lx.pending))
          lx.log.toList := by
  obtain ⟨obeyed, logged⟩ := emissions_stay_unless_given_up "a.js" "#" {}
    [.emit { severity := .warning, message := "a" }, .ask (.look .regExp),
      .emit { severity := .warning, message := "b" }, .ask (.pull .div),
      .emit { severity := .warning, message := "c" }]
  obtain ⟨replies, lx, run⟩ := obeyed (by decide)
  obtain ⟨merged, -⟩ := logged replies lx run
  obtain ⟨_, _, evaluated, severities⟩ :
      ∃ replies lx,
        (create "a.js" "#" {}).drive (List.map Act.command
          [.emit { severity := .warning, message := "a" }, .ask (.look .regExp),
            .emit { severity := .warning, message := "b" }, .ask (.pull .div),
            .emit { severity := .warning, message := "c" }]) = .ok (replies, lx) ∧
        lx.log.toList.map (·.severity) = [.warning, .error, .warning] := ⟨_, _, rfl, rfl⟩
  rw [evaluated] at run
  cases run
  exact ⟨by decide, _, _, _, rfl, evaluated, by decide, by decide, severities, merged⟩

/-- A look-ahead that is given up forgets more than its own diagnostics: its token has
no error, and yet the warning that the caller emitted is no longer in the log. -/
theorem given_up_look_loses_emission :
    ∃ acts replies lx,
      acts = [.ask (.look .regExp), .emit { severity := .warning, message := "w" },
        .ask (.pull .div)] ∧
      (create "a.js" "a" {}).drive (acts.map Act.command) = .ok (replies, lx) ∧
      ¬ (Act.emissions acts).Sublist lx.log.toList :=
  ⟨_, _, _, rfl, rfl, by decide⟩

end Lexer

end GoalLexer
