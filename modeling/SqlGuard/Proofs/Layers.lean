import Mathlib.Data.List.Basic
import SqlGuard.Proofs.Containment

/-!
# Layers of settings

A field of an endpoint can be set in several places. `Overrides.value?` and
`Endpoint.value` look at layers and endpoints field by field: of two layers the
first one that sets a field wins (`value?_orElse`), and an endpoint keeps what no
layer sets (`value_apply`). The laws of layers follow from these two equations.

* `orElse_assoc`, `apply_orElse`, `apply_apply`, `isEmpty_iff`: layers act on
  endpoints.
* `value_layers`: a field comes from the first of any number of layers that sets
  it.
* `layers_lawful`: the laws, and where the fields of a program's endpoint come from.
-/
namespace SqlGuard

open Profile (Field)

/-! ## Field by field -/

/-- What a field holds. -/
def Profile.Field.Value : Field → Type
  | port => UInt16
  | _ => String

namespace Endpoint

def value (e : Endpoint) : (f : Field) → f.Value
  | .host => e.host
  | .port => e.port
  | .user => e.user
  | .password => e.password
  | .database => e.database

theorem ext_value {e e' : Endpoint} (h : ∀ f, e.value f = e'.value f) : e = e' := by
  obtain ⟨host, port, user, password, database⟩ := e
  obtain ⟨host', port', user', password', database'⟩ := e'
  obtain rfl : host = host' := h .host
  obtain rfl : port = port' := h .port
  obtain rfl : user = user' := h .user
  obtain rfl : password = password' := h .password
  obtain rfl : database = database' := h .database
  rfl

/-- Two endpoints may have no field in common. -/
theorem exists_apart : ∃ e e' : Endpoint, ∀ f, e.value f ≠ e'.value f := by
  refine ⟨⟨"", 0, "", "", ""⟩, ⟨"a", 1, "a", "a", "a"⟩, fun f => ?_⟩
  cases f with
  | port => exact (by decide : (0 : UInt16) ≠ 1)
  | _ => exact (by decide : "" ≠ "a")

end Endpoint

namespace Overrides

/-- The value of a field, if it is set. -/
def value? (o : Overrides) : (f : Field) → Option f.Value
  | .host => o.host
  | .port => o.port
  | .user => o.user
  | .password => o.password
  | .database => o.database

theorem ext_value {a b : Overrides} (h : ∀ f, a.value? f = b.value? f) : a = b := by
  obtain ⟨host, port, user, password, database⟩ := a
  obtain ⟨host', port', user', password', database'⟩ := b
  obtain rfl : host = host' := h .host
  obtain rfl : port = port' := h .port
  obtain rfl : user = user' := h .user
  obtain rfl : password = password' := h .password
  obtain rfl : database = database' := h .database
  rfl

theorem value?_none (f : Field) : none.value? f = .none := by
  cases f <;> rfl

theorem value?_orElse (a b : Overrides) (f : Field) :
    (a.orElse b).value? f = (a.value? f).or (b.value? f) := by
  cases f <;> exact Option.orElse_eq_or

end Overrides

theorem Endpoint.value_apply (e : Endpoint) (o : Overrides) (f : Field) :
    (e.apply o).value f = (o.value? f).getD (e.value f) := by
  cases f <;> rfl

/-! ## Laws of layers -/

namespace Overrides

theorem orElse_assoc (a b c : Overrides) : a.orElse (b.orElse c) = (a.orElse b).orElse c :=
  ext_value fun f => by simp only [value?_orElse, Option.or_assoc]

theorem none_orElse (a : Overrides) : none.orElse a = a :=
  ext_value fun f => by rw [value?_orElse, value?_none, Option.none_or]

theorem orElse_none (a : Overrides) : a.orElse none = a :=
  ext_value fun f => by rw [value?_orElse, value?_none, Option.or_none]

theorem orElse_self (a : Overrides) : a.orElse a = a :=
  ext_value fun f => by rw [value?_orElse, Option.or_self]

end Overrides

namespace Endpoint

theorem apply_none (e : Endpoint) : e.apply .none = e :=
  ext_value fun f => by rw [value_apply, Overrides.value?_none, Option.getD_none]

/-- The layer in front is laid over the one behind it. -/
theorem apply_orElse (e : Endpoint) (a b : Overrides) :
    e.apply (a.orElse b) = (e.apply b).apply a :=
  ext_value fun f => by
    rw [value_apply, value_apply, value_apply, Overrides.value?_orElse, Option.getD_or]

theorem apply_apply (e : Endpoint) (a : Overrides) : (e.apply a).apply a = e.apply a := by
  rw [← apply_orElse, Overrides.orElse_self]

/-- The endpoint under layers, of which the first one lies on top. -/
def under (e : Endpoint) (layers : List Overrides) : Endpoint :=
  layers.foldr (fun o e => e.apply o) e

/-- It does not matter whether the layers are put together first. -/
theorem apply_layers (e : Endpoint) (layers : List Overrides) :
    e.apply (layers.foldr Overrides.orElse .none) = e.under layers := by
  induction layers with
  | nil => exact e.apply_none
  | cons o layers ih => rw [List.foldr_cons, apply_orElse, ih, under, under, List.foldr_cons]

/-- A field comes from the first layer that sets it, or else from the endpoint. -/
theorem value_layers (e : Endpoint) (layers : List Overrides) (f : Field) :
    (e.under layers).value f = (layers.findSome? (·.value? f)).getD (e.value f) := by
  induction layers with
  | nil => rfl
  | cons o layers ih =>
    rw [under, List.foldr_cons, value_apply, ← under, ih, List.findSome?_cons]
    cases o.value? f <;> rfl

end Endpoint

/-- A layer that changes no endpoint sets no field, since endpoints differ in every field. -/
theorem Overrides.isEmpty_iff (a : Overrides) :
    a.isEmpty = true ↔ ∀ e : Endpoint, e.apply a = e := by
  rw [isEmpty, decide_eq_true_eq]
  constructor
  · rintro rfl e
    exact e.apply_none
  · intro h
    obtain ⟨e, e', hapart⟩ := Endpoint.exists_apart
    refine ext_value fun f => ?_
    rw [value?_none]
    cases hf : a.value? f with
    | none => rfl
    | some v =>
      -- every endpoint would hold `v` there already, also the two that differ
      have hv (d : Endpoint) : d.value f = v := by
        have hd := d.value_apply a f
        rwa [h d, hf] at hd
      exact absurd ((hv e).trans (hv e').symm) (hapart f)

/-! ## The endpoint of a program -/

namespace Invocation

/-- What the switches set. No switch sets a password. -/
def own (i : Invocation) : Overrides := ⟨i.host, i.port, i.user, none, i.database⟩

/-- What the connection string sets, if there is one. -/
def fromUrl (i : Invocation) : Except Fault Overrides :=
  match i.url with
  | none => .ok .none
  | some url => Overrides.ofConnectionString url

theorem overrides_eq (i : Invocation) : i.overrides = i.fromUrl.map i.own.orElse := by
  unfold overrides fromUrl
  cases i.url with
  | none => exact congrArg Except.ok (Overrides.orElse_none i.own).symm
  | some url => rfl

end Invocation

/-- A supplier that connects to one endpoint, whichever it is asked for. -/
def Supplier.fixedTo {κ σ : Type} (s : Supplier κ σ) (e : Endpoint) : Supplier κ σ :=
  { s with connect := fun _ => s.connect e }

namespace Session

variable {κ σ : Type} (s : Supplier κ σ) (e : Endpoint)

theorem handleLine_fixedTo (line : List UInt8) :
    handleLine (s.fixedTo e) e line = handleLine s e line := rfl

theorem converse_fixedTo (ending : Ending) (lines : List (List UInt8)) :
    converse (s.fixedTo e) e ending lines = converse s e ending lines := by
  induction lines with
  | nil => rfl
  | cons line rest ih => rw [converse, converse, handleLine_fixedTo, ih]

/-- A session connects to its own endpoint only. -/
theorem run_fixedTo (session : Session) : session.run (s.fixedTo e) e = session.run s e := by
  cases session with
  | once sql => rfl
  | interactive input =>
    show runInteractive (s.fixedTo e) e input = runInteractive s e input
    rw [runInteractive, runInteractive, converse_fixedTo]
    rfl

end Session

namespace Program

variable {κ σ : Type} {m : Machine} {i : Invocation} {file e : Endpoint} {url : Overrides}

theorem endpoint_under (hfile : Profile.load (profile m i) (m.look (profile m i)) = .ok file)
    (hurl : i.fromUrl = .ok url) :
    endpoint m i = .ok (file.under [i.own, url]) := by
  rw [endpoint, hfile, Invocation.overrides_eq, hurl]
  exact congrArg Except.ok (file.apply_orElse i.own url)

/-- A program connects to its endpoint only. -/
theorem run_fixedTo (he : endpoint m i = .ok e) (s : Supplier κ σ) {arguments : List String}
    (hread : Arguments.read arguments m.environment.profile = .ok i) (world : σ) :
    run s m arguments world = run (s.fixedTo e) m arguments world := by
  rw [run, run, hread]
  dsimp only
  rw [course, course, he]
  dsimp only
  rw [held, held, Session.run_fixedTo]

/-- Where the fields of an endpoint come from. -/
structure Layered (i : Invocation) (url : Overrides) (file e : Endpoint) : Prop where
  host : e.host = i.host.getD (url.host.getD file.host)
  port : e.port = i.port.getD (url.port.getD file.port)
  user : e.user = i.user.getD (url.user.getD file.user)
  /-- No switch matters to the password. -/
  password : e.password = url.password.getD file.password
  database : e.database = i.database.getD (url.database.getD file.database)

theorem layered_under (i : Invocation) (url : Overrides) (file : Endpoint) :
    Layered i url file (file.under [i.own, url]) :=
  ⟨rfl, rfl, rfl, rfl, rfl⟩

end Program

/-- Layers of settings are put together in any grouping, a layer without settings does nothing in
any place, and it is the only one that changes no endpoint. Layers that are put together are laid
over an endpoint one after the other, the first one on top; a layer laid over twice is laid over
once. So each field comes from the first of any number of layers that sets it, or else from the
endpoint. A program lays what its switches set over what its connection string sets, and both over
its profile; it connects to the endpoint that results and to no other one. -/
theorem layers_lawful :
    (∀ a b c : Overrides, a.orElse (b.orElse c) = (a.orElse b).orElse c) ∧
    (∀ a : Overrides, Overrides.none.orElse a = a ∧ a.orElse .none = a) ∧
    (∀ (a b : Overrides) (e : Endpoint),
      e.apply (a.orElse b) = (e.apply b).apply a ∧ (e.apply a).apply a = e.apply a) ∧
    (∀ a : Overrides, a.isEmpty = true ↔ ∀ e : Endpoint, e.apply a = e) ∧
    (∀ (layers : List Overrides) (e : Endpoint) (f : Field),
      (e.apply (layers.foldr Overrides.orElse .none)).value f =
        (layers.findSome? (·.value? f)).getD (e.value f)) ∧
    ∀ (m : Machine) (i : Invocation) (file : Endpoint) (url : Overrides),
      Profile.load (Program.profile m i) (m.look (Program.profile m i)) = .ok file →
      i.fromUrl = .ok url →
      ∃ e, Program.endpoint m i = .ok e ∧ Program.Layered i url file e ∧
        ∀ {κ σ : Type} (s : Supplier κ σ) (arguments : List String) (world : σ),
          Arguments.read arguments m.environment.profile = .ok i →
          Program.run s m arguments world = Program.run (s.fixedTo e) m arguments world := by
  refine ⟨Overrides.orElse_assoc, fun a => ⟨a.none_orElse, a.orElse_none⟩,
    fun a b e => ⟨e.apply_orElse a b, e.apply_apply a⟩, Overrides.isEmpty_iff,
    fun layers e f => ?_, fun m i file url hfile hurl => ?_⟩
  · rw [e.apply_layers, e.value_layers]
  · have he := Program.endpoint_under hfile hurl
    exact ⟨_, he, Program.layered_under i url file,
      fun s arguments world hread => Program.run_fixedTo he s hread world⟩

/-- A program whose profile is a file that names a host, a user and a database. -/
def shopMachine : Machine where
  environment := ⟨none, none, none, none, some "shop.json", none⟩
  beside := none
  look path := if path = "shop.json" then
      .file (Text.Utf8.encodeString
        "\x7b\"host\": \"db\", \"user\": \"me\", \"database\": \"shop\"\x7d")
    else .nothing
  logObstacle _ := none
  input := ⟨[], .exhausted⟩
  terminal := .unlimited

def shopArguments : List String :=
  ["--url", "mysql://reader:pw@10.0.0.2:3307", "-H", "10.0.0.1", "SHOW", "TABLES"]

/-- What the arguments ask for. -/
def shopInvocation : Invocation :=
  ⟨some "shop.json", some "mysql://reader:pw@10.0.0.2:3307", some "10.0.0.1", none, none, none,
    ["SHOW", "TABLES"]⟩

/-- The host is set by a switch, the port, the user and the password by the connection string, and
the database by the file. -/
theorem shop_layered :
    let e : Endpoint := ⟨"10.0.0.1", 3307, "reader", "pw", "shop"⟩
    Program.endpoint shopMachine shopInvocation = .ok e ∧
      ∀ {κ σ : Type} (s : Supplier κ σ) (world : σ),
        Program.run s shopMachine shopArguments world =
          Program.run (s.fixedTo e) shopMachine shopArguments world := by
  intro e
  have hfile : Profile.load (Program.profile shopMachine shopInvocation)
      (shopMachine.look (Program.profile shopMachine shopInvocation)) =
        .ok ⟨"db", defaultPort, "me", "", "shop"⟩ := by
    decide +kernel
  have hurl : shopInvocation.fromUrl =
      .ok ⟨some "10.0.0.2", some 3307, some "reader", some "pw", none⟩ := by
    decide +kernel
  have hread : Arguments.read shopArguments shopMachine.environment.profile =
      .ok shopInvocation := by
    rfl
  obtain ⟨-, -, -, -, -, hprogram⟩ := layers_lawful
  obtain ⟨⟨host, port, user, password, database⟩, he, hlayered, hrun⟩ :=
    hprogram shopMachine shopInvocation _ _ hfile hurl
  obtain rfl : host = _ := hlayered.host
  obtain rfl : port = _ := hlayered.port
  obtain rfl : user = _ := hlayered.user
  obtain rfl : password = _ := hlayered.password
  obtain rfl : database = _ := hlayered.database
  exact ⟨he, fun s world => hrun s shopArguments world hread⟩

end SqlGuard
