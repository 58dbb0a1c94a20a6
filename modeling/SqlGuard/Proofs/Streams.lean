import SqlGuard.Proofs.Answers

/-!
# Replies item by item

A driver hands a reply over item by item: the rows of a result one after
another, and behind them the end of the result with its count. `gather` is a
client's loop over these items: it keeps the rows in front of the first end and
the count of that end, and stops at the first item that fails. A link that reads
all results and shows the first one does the same (`execute_gathered`), so what
the loop keeps is what a statement is answered with.

* `Gathered.take_later`, `gathered_first`: behind the first end nothing is kept,
  in one turn and in a whole loop.
* `execute_firstResult`: the first failure fails a statement, and without one its
  answer depends on the first result and the description alone.
-/
namespace SqlGuard.Server

/-! ## Items -/

/-- A row with the columns of its result. -/
structure Row where
  columns : List Column
  cells : List (Option (List UInt8))
  deriving DecidableEq, Repr

/-- The values of a row: each cell is read by the type of its column. -/
def Row.values (row : Row) : List Value := readRow row.columns row.cells

/-- What a driver hands over: the next row of a result, or the end of the result. -/
inductive Item
  | row (row : Row)
  | done (affected : Nat)
  deriving DecidableEq, Repr

def RowPacket.item (columns : List Column) (row : RowPacket) : Except Breakdown Item :=
  row.read.map fun cells => .row ⟨columns, cells⟩

/-- The items of a result. What cannot be handed over fails in its place. -/
def ResultPacket.items : ResultPacket → List (Except Breakdown Item)
  | done affected => [.ok (.done affected)]
  | rows columns body =>
    match columns.mapM ColumnPacket.read with
    | .ok columns => body.map (RowPacket.item columns) ++ [.ok (.done 0)]
    | .error b => [.error b]
  | error packet => [.error (reported packet)]
  | dropped => [.error (ended .connectionEnded)]
  | empty => [.error (ended (.protocol "Packet empty"))]

/-- The items of a reply, result by result. -/
def itemsOf (reply : List ResultPacket) : List (Except Breakdown Item) :=
  reply.flatMap ResultPacket.items

/-- The rows in front of the first end, and the count of that end. -/
def firstResult : List Item → List Row × Nat
  | [] => ([], 0)
  | .row row :: items => (row :: (firstResult items).1, (firstResult items).2)
  | .done affected :: _ => ([], affected)

/-- All items, or the first failure among them. -/
def delivered (items : List (Except Breakdown Item)) : Except Breakdown (List Item) :=
  items.mapM id

theorem delivered_cons_ok (item : Item) (items : List (Except Breakdown Item)) :
    delivered (.ok item :: items) = (delivered items).map (item :: ·) := by
  unfold delivered
  rw [List.mapM_cons]
  cases items.mapM id <;> rfl

theorem delivered_append (xs ys : List (Except Breakdown Item)) :
    delivered (xs ++ ys) = delivered xs >>= fun before => (delivered ys).map (before ++ ·) := by
  unfold delivered
  rw [List.mapM_append]
  refine congrArg _ (funext fun before => ?_)
  cases ys.mapM id <;> rfl

theorem delivered_ok (items : List Item) : delivered (items.map .ok) = .ok items := by
  induction items with
  | nil => rfl
  | cons item items ih =>
    rw [List.map_cons, delivered_cons_ok, ih]
    rfl

theorem delivered_error (before : List Item) (b : Breakdown)
    (behind : List (Except Breakdown Item)) :
    delivered (before.map .ok ++ .error b :: behind) = .error b := by
  rw [delivered_append, delivered_ok]
  rfl

/-- Items are without a failure, or one of them is the first that fails. -/
theorem items_cases (items : List (Except Breakdown Item)) :
    (∃ read : List Item, items = read.map .ok) ∨
      ∃ (before : List Item) (b : Breakdown) (behind : List (Except Breakdown Item)),
        items = before.map .ok ++ .error b :: behind := by
  induction items with
  | nil => exact .inl ⟨[], rfl⟩
  | cons item items ih =>
    cases item with
    | error b => exact .inr ⟨[], b, items, rfl⟩
    | ok item =>
      rcases ih with ⟨read, rfl⟩ | ⟨before, b, behind, rfl⟩
      · exact .inl ⟨item :: read, rfl⟩
      · exact .inr ⟨item :: before, b, behind, rfl⟩

/-! ## The loop of a client -/

/-- What a client has kept of the items so far, and how many results have ended. -/
structure Gathered where
  rows : List Row
  affected : Nat
  results : Nat
  deriving DecidableEq, Repr

namespace Gathered

def nothing : Gathered := ⟨[], 0, 0⟩

/-- One turn of the loop. -/
def take (g : Gathered) : Item → Gathered
  | .row row => if g.results = 0 then { g with rows := g.rows ++ [row] } else g
  | .done affected =>
    { g with
      affected := if g.results = 0 then affected else g.affected
      results := g.results + 1 }

/-- The answer made of what was kept. -/
def answer (g : Gathered) (sql : String) (described : Option (List Column)) : Answer :=
  let answer :=
    match g.rows with
    | [] => Link.rowlessAnswer sql described g.affected
    | first :: _ => .table first.columns (g.rows.map Row.values)
  { answer with affected := g.affected }

/-- Behind the first end, an item changes nothing that the answer is made of. -/
theorem take_later {g : Gathered} (h : g.results ≠ 0) (item : Item) :
    (g.take item).rows = g.rows ∧ (g.take item).affected = g.affected ∧
      (g.take item).results ≠ 0 := by
  cases item with
  | row row =>
    rw [take, if_neg h]
    exact ⟨rfl, rfl, h⟩
  | done affected => exact ⟨rfl, if_neg h, Nat.succ_ne_zero _⟩

theorem foldl_later {g : Gathered} (h : g.results ≠ 0) (items : List Item) :
    (items.foldl take g).rows = g.rows ∧ (items.foldl take g).affected = g.affected := by
  induction items generalizing g with
  | nil => exact ⟨rfl, rfl⟩
  | cons item items ih =>
    obtain ⟨hrows, haffected, hresults⟩ := take_later h item
    rw [List.foldl_cons, ← hrows, ← haffected]
    exact ih hresults

/-- In front of the first end, the rows come behind those that were kept before. -/
theorem foldl_first {g : Gathered} (h : g.results = 0) (h0 : g.affected = 0) (items : List Item) :
    (items.foldl take g).rows = g.rows ++ (firstResult items).1 ∧
      (items.foldl take g).affected = (firstResult items).2 := by
  induction items generalizing g with
  | nil => exact ⟨(List.append_nil _).symm, h0⟩
  | cons item items ih =>
    cases item with
    | row row =>
      have htake : g.take (.row row) = { g with rows := g.rows ++ [row] } := if_pos h
      obtain ⟨hrows, haffected⟩ := ih (g := { g with rows := g.rows ++ [row] }) h h0
      rw [List.foldl_cons, htake, hrows, haffected, List.append_assoc]
      exact ⟨rfl, rfl⟩
    | done affected =>
      have htake : g.take (.done affected) = ⟨g.rows, affected, 1⟩ := by
        rw [take, if_pos h, h]
      obtain ⟨hrows, haffected⟩ := foldl_later (g := ⟨g.rows, affected, 1⟩) Nat.one_ne_zero items
      rw [List.foldl_cons, htake, hrows, haffected]
      exact ⟨(List.append_nil _).symm, rfl⟩

end Gathered

/-- The whole loop, from what was kept before. -/
def gather (g : Gathered) : List (Except Breakdown Item) → Except Breakdown Gathered
  | [] => .ok g
  | .ok item :: items => gather (g.take item) items
  | .error b :: _ => .error b

theorem gather_eq (g : Gathered) (items : List (Except Breakdown Item)) :
    gather g items = (delivered items).map fun read => read.foldl Gathered.take g := by
  induction items generalizing g with
  | nil => rfl
  | cons item items ih =>
    cases item with
    | error b => rfl
    | ok item =>
      rw [gather, ih, delivered_cons_ok]
      cases delivered items <;> rfl

/-- Without a failure, the loop keeps the first result. -/
theorem gathered_first (items : List Item) :
    ∃ results, gather .nothing (items.map .ok) =
      .ok ⟨(firstResult items).1, (firstResult items).2, results⟩ := by
  obtain ⟨hrows, haffected⟩ := Gathered.foldl_first (g := .nothing) rfl rfl items
  have hfirst : (items.foldl Gathered.take .nothing).rows = (firstResult items).1 := hrows
  refine ⟨(items.foldl Gathered.take .nothing).results, ?_⟩
  rw [gather_eq, delivered_ok, ← haffected, ← hfirst]
  rfl

/-! ## Whole results -/

/-- The items of a result that was read. -/
def ResultSet.items (r : ResultSet) : List Item :=
  r.rows.map (fun cells => .row ⟨r.columns, cells⟩) ++ [.done r.affected]

theorem firstResult_items (r : ResultSet) (later : List Item) :
    firstResult (r.items ++ later) = (r.rows.map fun cells => ⟨r.columns, cells⟩, r.affected) := by
  obtain ⟨affected, columns, rows⟩ := r
  show firstResult (rows.map _ ++ [.done affected] ++ later) = _
  induction rows with
  | nil => rfl
  | cons cells rows ih =>
    rw [List.map_cons, List.cons_append, List.cons_append, firstResult, ih]
    rfl

theorem firstResult_results (results : List ResultSet) :
    let first := Link.firstOf results
    firstResult (results.flatMap ResultSet.items) =
      (first.rows.map fun cells => ⟨first.columns, cells⟩, first.affected) := by
  cases results with
  | nil => rfl
  | cons first later => exact firstResult_items first _

theorem delivered_rows (columns : List Column) (body : List RowPacket) :
    delivered (body.map (RowPacket.item columns)) =
      (body.mapM RowPacket.read).map fun rows => rows.map fun cells => .row ⟨columns, cells⟩ := by
  induction body with
  | nil => rfl
  | cons row body ih =>
    rw [List.map_cons, List.mapM_cons, RowPacket.item]
    cases row.read with
    | error b => rfl
    | ok cells =>
      rw [show (Except.ok cells).map _ = Except.ok (Item.row ⟨columns, cells⟩) from rfl,
        delivered_cons_ok, ih]
      cases body.mapM RowPacket.read <;> rfl

/-- A result is read as its items are delivered. -/
theorem delivered_result (packet : ResultPacket) :
    delivered packet.items = packet.read.map ResultSet.items := by
  cases packet with
  | rows columns body =>
    rw [ResultPacket.items, ResultPacket.read]
    cases columns.mapM ColumnPacket.read with
    | error b => rfl
    | ok columns =>
      dsimp only
      rw [delivered_append, delivered_rows]
      cases body.mapM RowPacket.read <;> rfl
  | _ => rfl

/-- A reply is read as its items are delivered. -/
theorem delivered_reply (reply : List ResultPacket) :
    delivered (itemsOf reply) =
      (readReply reply).map fun results => results.flatMap ResultSet.items := by
  unfold itemsOf readReply
  induction reply with
  | nil => rfl
  | cons packet reply ih =>
    rw [List.flatMap_cons, delivered_append, delivered_result, ih, List.mapM_cons]
    cases packet.read with
    | error b => rfl
    | ok r => cases reply.mapM ResultPacket.read <;> rfl

/-! ## Statements -/

namespace Link

/-- What a client finds out about the columns of the next statement: it remembers them, or the
server describes the statement. -/
def description (l : Link) (sql : String) : Option (List Column) :=
  (l.described.lookup sql).or (readDescription l.upcoming.description).toOption

/-- A statement without rows is described to the client. -/
theorem describe_sent {l : Link} (h : l.alive = true) (sql : String) :
    ((l.sent sql).describe sql).1.toOption = l.description sql := by
  have hremembered : (l.sent sql).described = l.described := by
    unfold sent recorded
    split <;> rfl
  have hcurrent : (l.sent sql).current = l.upcoming := rfl
  have halive : (l.sent sql).alive = true := (sent_alive l sql).trans h
  unfold describe description
  rw [hremembered]
  cases l.described.lookup sql with
  | some columns => rfl
  | none =>
    have hrecorded : ((l.sent sql).recorded ("prepare " ++ sql)).current = l.upcoming := by
      rw [recorded, if_pos halive, hcurrent]
    dsimp only
    rw [if_pos halive, hrecorded]
    cases readDescription l.upcoming.description <;> rfl

theorem describeRowless_sent {l : Link} (h : l.alive = true) (sql : String) {first : ResultSet}
    (hrows : first.rows = []) :
    ((l.sent sql).describeRowless sql first).1 = l.description sql := by
  rw [← describe_sent h sql, describeRowless, if_pos (by simp [hrows])]
  rcases (l.sent sql).describe sql with ⟨b | columns, l'⟩ <;> rfl

/-- The first result is answered with in the way that its rows and its count are, and the
description matters only if it has no rows. -/
theorem answerOf_gathered (sql : String) {g : Gathered} {first : ResultSet}
    (hrows : g.rows = first.rows.map fun cells => ⟨first.columns, cells⟩)
    (haffected : g.affected = first.affected) {described known : Option (List Column)}
    (hdescribed : first.rows = [] → described = known) :
    answerOf sql first described = g.answer sql known := by
  obtain ⟨affected, columns, rows⟩ := first
  obtain ⟨gathered, count, results⟩ := g
  dsimp only at hrows haffected hdescribed
  subst hrows haffected
  cases rows with
  | nil =>
    rw [hdescribed rfl]
    rfl
  | cons cells rows =>
    show ({ Answer.table columns ((cells :: rows).map (readRow columns)) with
        affected := count } : Answer) =
      { Answer.table columns (((cells :: rows).map fun cells => ⟨columns, cells⟩).map Row.values) with
        affected := count }
    rw [List.map_map]
    rfl

/-- What the loop keeps of the items of a reply is what a statement is answered with. -/
theorem execute_gathered {l : Link} (hopen : l.isOpen = true) (halive : l.alive = true)
    (sql : String) :
    (l.execute sql).result =
      match gather .nothing (itemsOf l.upcoming.reply) with
      | .ok g => .ok (g.answer sql (l.description sql))
      | .error b => .error b.failure.whileExecuting := by
  rw [gather_eq, delivered_reply, execute, if_pos hopen, send_alive halive]
  cases readReply l.upcoming.reply with
  | error b => rfl
  | ok results =>
    obtain ⟨hrows, haffected⟩ :=
      Gathered.foldl_first (g := .nothing) rfl rfl (results.flatMap ResultSet.items)
    rw [firstResult_results] at hrows haffected
    exact congrArg Except.ok
      (answerOf_gathered sql hrows haffected fun h => describeRowless_sent halive sql h)

/-- How an open link answers a statement, told from the items of the reply. -/
structure Answers (l : Link) (sql : String) : Prop where
  /-- The first failure is the fault of the statement, whatever was delivered before. -/
  fails : ∀ (before : List Item) (b : Breakdown) (behind : List (Except Breakdown Item)),
    itemsOf l.upcoming.reply = before.map .ok ++ .error b :: behind →
    (l.execute sql).result = .error b.failure.whileExecuting
  /-- Without a failure, the first result is shown: its rows, its count, and its columns, which are
  those of the description if it has no rows. -/
  shows : ∀ items : List Item, itemsOf l.upcoming.reply = items.map .ok →
    ∃ answer, (l.execute sql).result = .ok answer ∧
      answer.rows = (firstResult items).1.map Row.values ∧
      answer.columns = (match (firstResult items).1 with
        | [] => (l.description sql).getD []
        | row :: _ => row.columns) ∧
      answer.affected = (firstResult items).2

theorem rowlessAnswer_spec (sql : String) (described : Option (List Column)) (affected : Nat) :
    (rowlessAnswer sql described affected).rows = [] ∧
      (rowlessAnswer sql described affected).columns = described.getD [] := by
  unfold rowlessAnswer
  split
  · exact ⟨rfl, rfl⟩
  · exact ⟨rfl, rfl⟩
  · split <;> exact ⟨rfl, rfl⟩

theorem execute_answers {l : Link} (hopen : l.isOpen = true) (halive : l.alive = true)
    (sql : String) : l.Answers sql := by
  have hgathered := execute_gathered hopen halive sql
  refine ⟨fun before b behind h => ?_, fun items h => ?_⟩
  · rw [hgathered, gather_eq, h, delivered_error]
    rfl
  · obtain ⟨results, hg⟩ := gathered_first items
    rw [hgathered, h, hg]
    refine ⟨_, rfl, ?_⟩
    unfold Gathered.answer
    cases (firstResult items).1 with
    | nil =>
      obtain ⟨hrows, hcolumns⟩ := rowlessAnswer_spec sql (l.description sql) (firstResult items).2
      exact ⟨hrows, hcolumns, rfl⟩
    | cons row rows => exact ⟨rfl, rfl, rfl⟩

/-- The first item that fails, wherever it stands, fails a statement, and without one the first
result is shown. So two replies without a failure, with the same first result and the same
description, are answered in the same way, whatever comes behind. -/
theorem execute_firstResult (sql : String) :
    (∀ items : List (Except Breakdown Item), (∃ read : List Item, items = read.map .ok) ∨
      ∃ (before : List Item) (b : Breakdown) (behind : List (Except Breakdown Item)),
        items = before.map .ok ++ .error b :: behind) ∧
    (∀ l : Link, l.isOpen = true → l.alive = true → l.Answers sql) ∧
    ∀ (l l' : Link) (items items' : List Item), l.isOpen = true → l.alive = true →
      l'.isOpen = true → l'.alive = true →
      itemsOf l.upcoming.reply = items.map .ok → itemsOf l'.upcoming.reply = items'.map .ok →
      firstResult items = firstResult items' →
      ((firstResult items).1 = [] → l.description sql = l'.description sql) →
      (l.execute sql).result = (l'.execute sql).result := by
  refine ⟨items_cases, fun l hopen halive => execute_answers hopen halive sql, ?_⟩
  intro l l' items items' hopen halive hopen' halive' hitems hitems' hfirst hdescription
  obtain ⟨results, hg⟩ := gathered_first items
  obtain ⟨results', hg'⟩ := gathered_first items'
  rw [execute_gathered hopen halive, execute_gathered hopen' halive', hitems, hitems', hg, hg',
    ← hfirst]
  refine congrArg Except.ok ?_
  unfold Gathered.answer
  cases hrows : (firstResult items).1 with
  | nil => rw [hdescription hrows]
  | cons row rows => rfl

/-- A server that replies with two numbers, and with more results behind them. -/
def numbersLink (later : List ResultPacket) : Link :=
  ⟨true, true,
    [⟨.rows [⟨Text.Utf8.encodeString "n", .known "INT"⟩]
          [.cells [some (Text.Utf8.encodeString "1")], .cells [none]] :: later,
        .error notDescribable⟩],
    .plain, [], []⟩

/-- The items of the two numbers. -/
def numberItems : List Item :=
  [.row ⟨[⟨"n", "INT"⟩], [some (Text.Utf8.encodeString "1")]⟩, .row ⟨[⟨"n", "INT"⟩], [none]⟩,
    .done 0]

/-- An error behind both results. -/
def stopped : ErrorPacket := .ofParts 1317 none (Text.Utf8.encodeString "stopped")

theorem numbers_first :
    ((numbersLink [.done 7, .error stopped]).execute "SELECT n FROM t").result =
      .error (.query "ERROR 1317: stopped") ∧
    (∃ answer, ((numbersLink [.done 7]).execute "SELECT n FROM t").result = .ok answer ∧
      answer.rows = [[.int 1], [.null]] ∧ answer.columns = [⟨"n", "INT"⟩] ∧
      answer.affected = 0) ∧
    ((numbersLink [.done 7]).execute "SELECT n FROM t").result =
      ((numbersLink []).execute "SELECT n FROM t").result := by
  have hfails : itemsOf (numbersLink [.done 7, .error stopped]).upcoming.reply =
      (numberItems ++ [Item.done 7]).map .ok ++ .error (reported stopped) :: [] := rfl
  have hlater : itemsOf (numbersLink [.done 7]).upcoming.reply =
      (numberItems ++ [Item.done 7]).map .ok := rfl
  have hnone : itemsOf (numbersLink []).upcoming.reply = numberItems.map .ok := rfl
  have hfault : (reported stopped).failure.whileExecuting = .query "ERROR 1317: stopped" := by
    decide +kernel
  have hfirst : firstResult (numberItems ++ [Item.done 7]) = firstResult numberItems := rfl
  have hvalues : (firstResult numberItems).1.map Row.values = [[.int 1], [.null]] := by
    decide +kernel
  obtain ⟨-, hanswers, hsame⟩ := execute_firstResult "SELECT n FROM t"
  refine ⟨?_, ?_, ?_⟩
  · rw [← hfault]
    exact (hanswers (numbersLink [.done 7, .error stopped]) rfl rfl).fails _ _ _ hfails
  · rw [← hvalues, ← hfirst]
    exact (hanswers (numbersLink [.done 7]) rfl rfl).shows _ hlater
  · exact hsame (numbersLink [.done 7]) (numbersLink []) _ _ rfl rfl rfl rfl hlater hnone hfirst
      fun _ => rfl

end Link

end SqlGuard.Server
