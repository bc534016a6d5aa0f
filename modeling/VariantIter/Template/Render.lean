import VariantIter.Template.Basic
import VariantIter.Template.Datum

/-!
Filling in a template.

Values are inserted as they are: a brace in a value never starts a place or a tag. A value that cannot be
shown ends the filling in.
-/

namespace VariantIter.Template

/-- Why filling in stopped: a fault of the template, or one of another kind inside of a filter or of a value. -/
inductive Stop where
  | template (fault : TemplateFault)
  | other (fault : Fault)

/-- Names with what they stand for; the first counts. -/
abbrev Scope := List (Text × Datum)

/-- An attribute of a datum. One that a datum lacks is missing; what is missing has no attributes. -/
def select (datum : Datum) (name : Text) : Except Stop Datum :=
  match datum with
  | .missing fault => .error (.template fault)
  | datum => .ok ((datum.attributes.lookup name).getD
      (.missing (.noAttribute datum.description name)))

/-- What a path stands for. -/
def lookUp (scope : Scope) : Path → Except Stop Datum
  | [] => .error (.template (.undefinedName []))
  | name :: names =>
      names.foldlM select ((scope.lookup name).getD (.missing (.undefinedName name)))

/-- The fault of a value that cannot be shown. -/
def Stop.unshowable : Stop :=
  .other (.range .unshowable)

/-- The fault of a filter that needs an attribute which a datum lacks. -/
def lacking (datum : Datum) (name : Text) : Stop :=
  match datum with
  | .missing fault => .template fault
  | datum => .other (.noAttribute datum.kindName name)

/-- The filters that there are. -/
inductive Filter where
  | construct
  | defaultValue
  | visibility
  | quote
deriving DecidableEq, Repr

namespace Filter

def name : Filter → Text
  | .construct => "construct"
  | .defaultValue => "default_value"
  | .visibility => "visibility"
  | .quote => "quote"

def all : List Filter :=
  [.construct, .defaultValue, .visibility, .quote]

def ofName? (name : Text) : Option Filter :=
  all.find? fun filter => filter.name == name

/-- The datum that a filter makes of another. -/
def apply (filter : Filter) (dialect : Dialect) (datum : Datum) : Except Stop Datum :=
  match filter, datum with
  | .construct, .record _ _ _ (some (.construction c)) =>
      if c.isShowable then .ok (.text (dialect.construct c)) else .error .unshowable
  | .construct, datum =>
      .error (lacking datum
        (if datum.fields.any (fun field => field.1 == "owner") then "variant" else "owner"))
  | .defaultValue, .record _ _ _ (some (.defaultValue value)) =>
      if value.type.isShowable then .ok (.text (dialect.defaultValue value)) else .error .unshowable
  | .defaultValue, datum => .error (lacking datum "type_ref")
  | .visibility, datum => match dialect, datum with
    | .python, _ => .ok (.text [])
    | .rust, .missing fault => .error (.template fault)
    | .rust, datum =>
        if !datum.truthy then .ok (.text [])
        else if datum.isShowable then .ok (.text (Dialect.rust.visibility datum.display))
        else .error .unshowable
  | .quote, .value (.text s) => .ok (.text (Text.enclose s))
  | .quote, datum => .error (lacking datum "replace")

end Filter

mutual

/-- The first place with an unknown filter decides, in it the last one. -/
def Piece.unknownFilter? : Piece → Option Text
  | .text _ => none
  | .place _ filters => filters.reverse.find? fun name => (Filter.ofName? name).isNone
  | .loop _ _ body => unknownFilterIn? body

def unknownFilterIn? : List Piece → Option Text
  | [] => none
  | piece :: pieces => match piece.unknownFilter? with
    | some name => some name
    | none => unknownFilterIn? pieces

end

/-- Applies the filter of a given name. -/
def applyNamed (dialect : Dialect) (datum : Datum) (name : Text) : Except Stop Datum :=
  match Filter.ofName? name with
  | some filter => filter.apply dialect datum
  | none => .error (.template (.noFilter name))

/-- The text of a datum in a place. -/
def shown : Datum → Except Stop Text
  | .missing fault => .error (.template fault)
  | datum => if datum.isShowable then .ok datum.display else .error .unshowable

/-- What a loop over a datum goes through. -/
def itemsOf : Datum → Except Stop (List Datum)
  | .missing fault => .error (.template fault)
  | .tuple items => .ok items
  | .mapping entries => .ok (entries.map fun (name, _) => .text name)
  | .value v => match v.items? with
    | some items => .ok (items.map Datum.value)
    | none => .error (.other (.kind (.notIterable v.qualifiedKind)))
  | datum => .error (.other (.kind (.notIterable datum.kindName)))

mutual

def Piece.render (dialect : Dialect) (scope : Scope) : Piece → Except Stop Text
  | .text s => .ok s
  | .place path filters => do
      shown (← filters.foldlM (applyNamed dialect) (← lookUp scope path))
  | .loop item path body => do
      let items ← itemsOf (← lookUp scope path)
      let texts ← items.mapM fun datum => renderAll dialect ((item, datum) :: scope) body
      return texts.flatten

/-- The text of pieces one after another. -/
def renderAll (dialect : Dialect) (scope : Scope) : List Piece → Except Stop Text
  | [] => .ok []
  | piece :: pieces => do
      let first ← piece.render dialect scope
      let rest ← renderAll dialect scope pieces
      return first ++ rest

end

/-- The names that a template for fragments starts with. -/
def fragmentScope (f : Fragment) : Scope :=
  [("fragment", .ofFragment f), ("state", .ofState f.state), ("entry", .ofEntry f.entry),
    ("mapping", .ofMapping f.mapping), ("next_op", .ofNext f.next)]

/-- The text of a fragment in the layout of a template. All filters are known before anything is filled
in. -/
def render (source : List Char) (dialect : Dialect) (f : Fragment) : Except Stop Text :=
  match parse source with
  | .error fault => .error (.template fault)
  | .ok pieces => match unknownFilterIn? pieces with
    | some name => .error (.template (.noFilter name))
    | none => renderAll dialect (fragmentScope f) pieces

end VariantIter.Template
