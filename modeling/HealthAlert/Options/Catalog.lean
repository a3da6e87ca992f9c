import HealthAlert.Options.Kind

/-!
# The packaged lists

The choices that are offered when no directory of data files is configured.
-/

namespace HealthAlert.Catalog

/-- Choices that are shown as they are. -/
def plain (names : List String) : List Choice :=
  names.map fun n => { value := n, label := n }

/-- Names of the services. -/
def serviceNames : List String := [
  "Action Groups", "Activity Logs & Alerts", "API Management", "App Service",
  "Application Gateway", "Application Insights", "Azure Cosmos DB", "Azure DNS",
  "Azure Firewall", "Azure Front Door", "Azure Kubernetes Service (AKS)", "Azure Monitor",
  "Backup", "Event Hubs", "Functions", "Key Vault", "Load Balancer", "Log Analytics",
  "Microsoft Entra ID", "Service Bus", "SQL Database", "Storage", "Virtual Machines",
  "Virtual Network", "VPN Gateway"]

/-- Names of the regions. -/
def regionNames : List String := [
  "Global", "Australia East", "Brazil South", "Canada Central", "Central India", "Central US",
  "East Asia", "East US", "East US 2", "France Central", "Germany West Central", "Japan East",
  "North Europe", "South Central US", "Southeast Asia", "Sweden Central", "Switzerland North",
  "UK South", "West Europe", "West US", "West US 2", "West US 3"]

/-- Types of event. -/
def eventTypes : List Choice := [
  { value := "Incident", label := "Service issue" },
  { value := "Maintenance", label := "Planned maintenance" },
  { value := "Informational", label := "Health advisories" },
  { value := "ActionRequired", label := "Action required" },
  { value := "Security", label := "Security advisory" }]

/-- Levels of severity. -/
def severities : List Choice := [
  { value := "Sev0", label := "Sev 0 - Critical" },
  { value := "Sev1", label := "Sev 1 - Error" },
  { value := "Sev2", label := "Sev 2 - Warning" },
  { value := "Sev3", label := "Sev 3 - Informational" },
  { value := "Sev4", label := "Sev 4 - Verbose" }]

/-- The packaged choices of a list. -/
def choices : OptionKind → List Choice
  | .services => plain serviceNames
  | .eventTypes => eventTypes
  | .regions => plain regionNames
  | .severity => severities

end HealthAlert.Catalog
