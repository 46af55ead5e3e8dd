import ScrapeFleet.Replica.Rpc

/-!
A replica that is reached over HTTP.
-/

namespace ScrapeFleet

structure Remote where
  address : String
  exchange : Http.Request → Http.Exchange

namespace Remote

instance : Endpoint Remote where
  address := Remote.address
  runtime r := (Rpc.readRuntime r.address (r.exchange (Rpc.runtimeRequest r.address)), r)
  scrapeStatus r :=
    (Rpc.readScrapeStatus r.address (r.exchange (Rpc.scrapeStatusRequest r.address)), r)
  pushConfig raw r :=
    (Rpc.readAcknowledgement r.address (r.exchange (Rpc.pushConfigRequest r.address raw)), r)
  pushTargets ts r :=
    (Rpc.readAcknowledgement r.address (r.exchange (Rpc.pushTargetsRequest r.address ts)), r)

end Remote

end ScrapeFleet
