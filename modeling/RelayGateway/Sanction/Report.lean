import RelayGateway.Sanction

/-! # Reports on sanctions

The sanctions in force, one record each, for all services or for one. The report on one service also
counts its endpoints and those that remain.
-/
namespace RelayGateway

structure SanctionRecord where
  endpointAddr : EndpointAddr
  sanctionType : SanctionType
  sanction : Sanction
deriving DecidableEq, Inhabited

structure SanctionDetails where
  permanent : List SanctionRecord
  session : List SanctionRecord
  permanentCount : Nat
  sessionCount : Nat
deriving DecidableEq, Inhabited

structure ServiceSanctionDetails where
  service : ServiceId
  totalEndpoints : Nat
  validEndpoints : Nat
  sanctions : SanctionDetails
deriving DecidableEq, Inhabited

def SanctionRecord.toJson (r : SanctionRecord) : Json :=
  .object ([("endpoint_addr", r.endpointAddr.toJson), ("sanction_type", r.sanctionType.toJson)] ++
    r.sanction.members)

namespace SanctionDetails

def members (d : SanctionDetails) : List (String × Json) :=
  [("permanent", .array (d.permanent.map SanctionRecord.toJson)),
    ("session", .array (d.session.map SanctionRecord.toJson)),
    ("permanent_count", .natural d.permanentCount), ("session_count", .natural d.sessionCount)]

def toJson (d : SanctionDetails) : Json := .object d.members

end SanctionDetails

def ServiceSanctionDetails.toJson (d : ServiceSanctionDetails) : Json :=
  .object ([("service_id", .string d.service), ("total_endpoints", .natural d.totalEndpoints),
    ("valid_endpoints", .natural d.validEndpoints)] ++ d.sanctions.members)

end RelayGateway
