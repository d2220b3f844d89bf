import SessionKeeper.Field

/-!
# Templates

* `Template` : a template for new workspaces, as the provider offers it.
* `Template.ofProvider` : a template from a provider reply.
* `Template.fallback` : the templates that are offered when the provider cannot be asked.
-/

namespace SessionKeeper

/-- A template for new workspaces. -/
structure Template where
  id : String
  name : String
  displayName : String
  description : String
  icon : String
  deprecated : Bool
  ttl : Int
  workspaceCount : Int
deriving Inhabited

namespace Template

def plainIcon : String := "/icon/default.svg"

def hour : Int := 3600000

def ofProvider : Json → Except Fault Template
  | .object fs => do
    let get (key : String) : Json := (Json.lookup key fs).getD .null
    let named {α : Type} (key : String) (read : Json → Checked α) (j : Json) : Checked α :=
      (read j).under (.name key)
    match Json.lookup "id" fs with
    | none => .error (.missingKey (.name "id"))
    | some id =>
      let name := ((get "name").orElse id).plain
      (mk id.plain name
        <$> named "display_name" Field.text ((get "display_name").orElse (.text name))
        <*> named "description" Field.text ((get "description").orElse (.text ""))
        <*> named "icon" Field.text ((get "icon").orElse (.text plainIcon))
        <*> .ok (get "deprecated").isFilled
        <*> named "default_ttl_ms" Field.integer ((get "default_ttl_ms").orElse (.number (.integer hour)))
        <*> named "workspace_count" Field.integer ((get "workspace_count").orElse (.number (.integer 0)))
        : Checked Template).toExcept .invalid
  | _ => .error .noParts

def json (t : Template) : Json :=
  .object [("id", .text t.id), ("name", .text t.name), ("display_name", .text t.displayName),
    ("description", .text t.description), ("icon", .text t.icon),
    ("deprecated", .bool t.deprecated), ("default_ttl_ms", .ofInt t.ttl),
    ("workspace_count", .ofInt t.workspaceCount)]

/-- The templates that are offered when the provider cannot be asked. -/
def fallback : List Template := [
  ⟨"ubuntu-basic", "ubuntu-basic", "Ubuntu Basic",
    "Basic Ubuntu workspace with essential development tools", "/icon/ubuntu.svg", false, hour, 0⟩,
  ⟨"nodejs-dev", "nodejs-dev", "Node.js Development",
    "Node.js development environment with VS Code", "/icon/nodejs.svg", false, hour, 0⟩,
  ⟨"python-datascience", "python-datascience", "Python Data Science",
    "Python environment with Jupyter, pandas, and ML libraries", "/icon/python.svg", false,
    2 * hour, 0⟩,
  ⟨"keruta-ubuntu", "keruta-ubuntu", "Keruta Ubuntu",
    "Ubuntu environment optimized for Keruta development tasks", "/icon/keruta.svg", false, hour, 0⟩]

end Template

end SessionKeeper
