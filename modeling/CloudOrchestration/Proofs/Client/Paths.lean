import CloudOrchestration.Channel.Operation
import CloudOrchestration.Client.Path
/-!
# Paths that differ

Which resource a request is about can be told from its path, whatever names
occur in it: from the end of the path, from its length or from its start.
-/

namespace CloudOrchestration

namespace Path

/-! ## By the end -/

theorem topology_ne_of_getLast? {path : String} (h : path.toList.getLast? = some 'y') :
    topology ≠ path := by
  rintro rfl
  exact absurd h (by decide)

theorem topology_ne_gateway (network : String) : topology ≠ gateway network := by
  refine topology_ne_of_getLast? ?_
  have hgateway : (gateway network).toList =
      ("/services/networking/" ++ network).toList ++ "/gateway".toList := String.toList_append
  have hlast : "/gateway".toList.getLast? = some 'y' := by decide
  rw [hgateway, List.getLast?_append, hlast]
  rfl

theorem topology_ne_sharedKey (network localSite : String) :
    topology ≠ sharedKey network localSite := by
  refine topology_ne_of_getLast? ?_
  have hkey : (sharedKey network localSite).toList =
      ("/services/networking/" ++ network ++ "/gateway/connection/" ++ localSite).toList ++
        "/sharedkey".toList := String.toList_append
  have hlast : "/sharedkey".toList.getLast? = some 'y' := by decide
  rw [hkey, List.getLast?_append, hlast]
  rfl

/-- Two paths whose last segments differ, one letter before the end. -/
theorem ne_of_segments {path path' start start' segment segment' : String}
    (hpath : path = start ++ segment) (hpath' : path' = start' ++ segment')
    (hlength : 1 < segment.length) (hlength' : 1 < segment'.length)
    (hne : segment.toList.reverse[1]? ≠ segment'.toList.reverse[1]?) : path ≠ path' := by
  have hletter : ∀ start segment : String, 1 < segment.length →
      (start ++ segment).toList.reverse[1]? = segment.toList.reverse[1]? := by
    intro start segment hlength
    have hreverse : 1 < segment.toList.reverse.length := by
      rwa [List.length_reverse, String.length_toList]
    rw [String.toList_append, List.reverse_append, List.getElem?_append_left hreverse]
  rintro rfl
  refine hne ?_
  rw [← hletter start segment hlength, ← hletter start' segment' hlength', ← hpath, ← hpath']

theorem dataDisks_ne_deployments {service deployment role service' : String} :
    dataDisks service deployment role ≠ deployments service' := by
  have hdisks : dataDisks service deployment role = "/services/hostedservices/" ++ service ++
      "/deployments/" ++ deployment ++ "/roles/" ++ role ++ "/DataDisks" := rfl
  have hdeployments : deployments service' =
      "/services/hostedservices/" ++ service' ++ "/deployments" := rfl
  exact ne_of_segments hdisks hdeployments (by decide) (by decide) (by decide)

theorem dataDisks_ne_roles {service deployment role service' deployment' : String} :
    dataDisks service deployment role ≠ roles service' deployment' := by
  have hdisks : dataDisks service deployment role = "/services/hostedservices/" ++ service ++
      "/deployments/" ++ deployment ++ "/roles/" ++ role ++ "/DataDisks" := rfl
  have hroles : roles service' deployment' = "/services/hostedservices/" ++ service' ++
      "/deployments/" ++ deployment' ++ "/roles" := rfl
  exact ne_of_segments hdisks hroles (by decide) (by decide) (by decide)

theorem roles_ne_deployments {service deployment service' : String} :
    roles service deployment ≠ deployments service' := by
  have hroles : roles service deployment =
      "/services/hostedservices/" ++ service ++ "/deployments/" ++ deployment ++ "/roles" := rfl
  have hdeployments : deployments service' =
      "/services/hostedservices/" ++ service' ++ "/deployments" := rfl
  exact ne_of_segments hroles hdeployments (by decide) (by decide) (by decide)

/-- Only documents of cloud services along with their deployments have such a
path. -/
theorem ne_cloudServiceDetail {path name : String} (h : path.toList.getLast? ≠ some 'e') :
    path ≠ cloudServiceDetail name := by
  rintro rfl
  have hdetail : (cloudServiceDetail name).toList =
      ("/services/hostedservices/" ++ name).toList ++ "?embed-detail=true".toList :=
    String.toList_append
  rw [hdetail, List.getLast?_append] at h
  exact h rfl

/-! ## By the length -/

/-- What lies below the listing of cloud services is not the listing. -/
theorem ne_cloudServices {path rest : String} (h : path = "/services/hostedservices/" ++ rest) :
    path ≠ cloudServices := by
  rintro rfl
  -- what lies below the listing has a path that is longer by one at least
  have hlength := congrArg String.length h
  have hlisting : cloudServices.length = 24 := by decide
  have hbelow : "/services/hostedservices/".length = 25 := by decide
  rw [String.length_append] at hlength
  omega

theorem deployments_ne_cloudServices (service : String) : deployments service ≠ cloudServices :=
  ne_cloudServices (String.append_assoc ..)

theorem roles_ne_cloudServices (service deployment : String) :
    roles service deployment ≠ cloudServices := by
  have hbelow : roles service deployment = "/services/hostedservices/" ++
      (service ++ ("/deployments/" ++ (deployment ++ "/roles"))) := by
    show "/services/hostedservices/" ++ service ++ "/deployments/" ++ deployment ++ "/roles" = _
    simp only [String.append_assoc]
  exact ne_cloudServices hbelow

theorem dataDisks_ne_cloudServices (service deployment role : String) :
    dataDisks service deployment role ≠ cloudServices := by
  have hbelow : dataDisks service deployment role = "/services/hostedservices/" ++
      (service ++ ("/deployments/" ++ (deployment ++ ("/roles/" ++ (role ++ "/DataDisks"))))) := by
    show "/services/hostedservices/" ++ service ++ "/deployments/" ++ deployment ++ "/roles/" ++
      role ++ "/DataDisks" = _
    simp only [String.append_assoc]
  exact ne_cloudServices hbelow

theorem deployment_ne_cloudServices (service name : String) :
    deployment service name ≠ cloudServices := by
  have hbelow : deployment service name =
      "/services/hostedservices/" ++ (service ++ ("/deployments/" ++ name)) := by
    show "/services/hostedservices/" ++ service ++ "/deployments/" ++ name = _
    simp only [String.append_assoc]
  exact ne_cloudServices hbelow

theorem dataDisk_ne_cloudServices (service deployment role : String) (lun : UInt8) :
    dataDisk service deployment role lun ≠ cloudServices := by
  have hbelow : dataDisk service deployment role lun = "/services/hostedservices/" ++
      (service ++ ("/deployments/" ++ (deployment ++ ("/roles/" ++ (role ++
        ("/DataDisks" ++ ("/" ++ toString lun))))))) := by
    show "/services/hostedservices/" ++ service ++ "/deployments/" ++ deployment ++ "/roles/" ++
      role ++ "/DataDisks" ++ "/" ++ toString lun = _
    simp only [String.append_assoc]
  exact ne_cloudServices hbelow

/-- The path of a cloud service tells its name. -/
theorem cloudService_injective {service service' : String}
    (h : cloudService service = cloudService service') : service = service' :=
  (String.append_right_inj _).1 h

theorem cloudServiceDetail_injective {service service' : String}
    (h : cloudServiceDetail service = cloudServiceDetail service') : service = service' :=
  (String.append_right_inj _).1 ((String.append_left_inj _).1 h)

/-- The path of the roles of a deployment tells its name. -/
theorem roles_injective {service deployment deployment' : String}
    (h : roles service deployment = roles service deployment') : deployment = deployment' :=
  (String.append_right_inj _).1 ((String.append_left_inj _).1 h)

/-! ## By the start -/

theorem operationPath_ne_of_getElem? {id path : String} (h : path.toList[1]? = some 's') :
    Channel.operationPath id ≠ path := by
  rintro rfl
  have hid : (Channel.operationPath id).toList = "/operations/".toList ++ id.toList :=
    String.toList_append
  rw [hid, List.getElem?_append_left (by decide)] at h
  exact absurd h (by decide)

theorem operationPath_ne_topology (id : String) : Channel.operationPath id ≠ topology :=
  operationPath_ne_of_getElem? (by decide)

theorem operationPath_ne_cloudServices (id : String) :
    Channel.operationPath id ≠ cloudServices :=
  operationPath_ne_of_getElem? (by decide)

theorem operationPath_ne_cloudService (id service : String) :
    Channel.operationPath id ≠ cloudService service := by
  refine operationPath_ne_of_getElem? ?_
  have hservice : (cloudService service).toList =
      "/services/hostedservices/".toList ++ service.toList := String.toList_append
  rw [hservice, List.getElem?_append_left (by decide)]
  decide

/-- Two paths with a letter that differs where both have a fixed start. -/
theorem ne_of_starts {path path' start start' rest rest' : String} {n : Nat}
    (hpath : path = start ++ rest) (hpath' : path' = start' ++ rest') (hn : n < start.length)
    (hn' : n < start'.length) (hne : start.toList[n]? ≠ start'.toList[n]?) : path ≠ path' := by
  have hletter : ∀ start rest : String, n < start.length →
      (start ++ rest).toList[n]? = start.toList[n]? := by
    intro start rest hn
    have hlist : n < start.toList.length := by rwa [String.length_toList]
    rw [String.toList_append, List.getElem?_append_left hlist]
  rintro rfl
  refine hne ?_
  rw [← hletter start rest hn, ← hletter start' rest' hn', ← hpath, ← hpath']

/-- Cloud services lie elsewhere than networks. -/
theorem hosted_ne_networking {path path' rest rest' : String}
    (hpath : path = "/services/hostedservices" ++ rest)
    (hpath' : path' = "/services/networking/" ++ rest') : path ≠ path' :=
  ne_of_starts (n := 10) hpath hpath' (by decide) (by decide) (by decide)

theorem availability_eq (network address : String) : availability network address =
    "/services/networking/" ++ (network ++ ("?op=checkavailability&address=" ++ address)) := by
  show "/services/networking/" ++ network ++ "?op=checkavailability&address=" ++ address = _
  simp only [String.append_assoc]

theorem hosted_ne_availability {path rest : String} (network address : String)
    (hpath : path = "/services/hostedservices" ++ rest) : path ≠ availability network address :=
  hosted_ne_networking hpath (availability_eq network address)

theorem operationPath_ne_availability (id network address : String) :
    Channel.operationPath id ≠ availability network address := by
  refine operationPath_ne_of_getElem? ?_
  rw [availability_eq, String.toList_append, List.getElem?_append_left (by decide)]
  decide

/-! ## Slots -/

theorem slot_eq_below (service slot : String) : Path.slot service slot =
    "/services/hostedservices" ++ ("/" ++ service ++ "/deploymentslots/" ++ slot) := by
  show "/services/hostedservices/" ++ service ++ "/deploymentslots/" ++ slot = _
  have hroot : "/services/hostedservices/" = "/services/hostedservices" ++ "/" := by decide
  rw [hroot]
  simp only [String.append_assoc]

/-- A slot lies below its cloud service. -/
theorem slot_ne_cloudService (service slot : String) :
    Path.slot service slot ≠ cloudService service := by
  have hbelow : Path.slot service slot = cloudService service ++ ("/deploymentslots/" ++ slot) :=
    String.append_assoc ..
  intro h
  have hlength := congrArg String.length (hbelow.symm.trans h)
  have hsegment : "/deploymentslots/".length = 17 := by decide
  rw [String.length_append, String.length_append] at hlength
  omega

theorem slot_ne_cloudServices (service slot : String) : Path.slot service slot ≠ cloudServices := by
  have hbelow : Path.slot service slot =
      "/services/hostedservices/" ++ (service ++ ("/deploymentslots/" ++ slot)) := by
    show "/services/hostedservices/" ++ service ++ "/deploymentslots/" ++ slot = _
    simp only [String.append_assoc]
  exact ne_cloudServices hbelow

theorem operationPath_ne_slot (id service slot : String) :
    Channel.operationPath id ≠ Path.slot service slot := by
  refine operationPath_ne_of_getElem? ?_
  rw [slot_eq_below, String.toList_append, List.getElem?_append_left (by decide)]
  decide

/-! ## Gateways and data disks -/

theorem operationPath_ne_networking {id path rest : String}
    (h : path = "/services/networking/" ++ rest) : Channel.operationPath id ≠ path := by
  refine operationPath_ne_of_getElem? ?_
  rw [h, String.toList_append, List.getElem?_append_left (by decide)]
  decide

theorem operationPath_ne_gateway (id network : String) :
    Channel.operationPath id ≠ gateway network :=
  operationPath_ne_networking (String.append_assoc ..)

/-- The key of a connection lies below the gateway. -/
theorem sharedKey_eq_below (network localSite : String) : sharedKey network localSite =
    gateway network ++ ("/connection/" ++ (localSite ++ "/sharedkey")) := by
  show "/services/networking/" ++ network ++ "/gateway/connection/" ++ localSite ++ "/sharedkey" =
    "/services/networking/" ++ network ++ "/gateway" ++ _
  have hsegment : "/gateway/connection/" = "/gateway" ++ "/connection/" := by decide
  rw [hsegment]
  simp only [String.append_assoc]

theorem gateway_ne_sharedKey (network localSite : String) :
    gateway network ≠ sharedKey network localSite := by
  intro h
  have hlength := congrArg String.length (h.trans (sharedKey_eq_below network localSite))
  have hsegment : "/connection/".length = 12 := by decide
  rw [String.length_append, String.length_append] at hlength
  omega

theorem operationPath_ne_sharedKey (id network localSite : String) :
    Channel.operationPath id ≠ sharedKey network localSite := by
  have hnetworking : sharedKey network localSite = "/services/networking/" ++
      (network ++ ("/gateway/connection/" ++ (localSite ++ "/sharedkey"))) := by
    show "/services/networking/" ++ network ++ "/gateway/connection/" ++ localSite ++
      "/sharedkey" = _
    simp only [String.append_assoc]
  exact operationPath_ne_networking hnetworking

theorem dataDisk_eq_below (service deployment role : String) (lun : UInt8) :
    dataDisk service deployment role lun = "/services/hostedservices" ++ ("/" ++ (service ++
      ("/deployments/" ++ (deployment ++ ("/roles/" ++ (role ++ ("/DataDisks" ++
        ("/" ++ toString lun)))))))) := by
  show "/services/hostedservices/" ++ service ++ "/deployments/" ++ deployment ++ "/roles/" ++
    role ++ "/DataDisks" ++ "/" ++ toString lun = _
  have hroot : "/services/hostedservices/" = "/services/hostedservices" ++ "/" := by decide
  rw [hroot]
  simp only [String.append_assoc]

theorem operationPath_ne_dataDisk (id service deployment role : String) (lun : UInt8) :
    Channel.operationPath id ≠ dataDisk service deployment role lun := by
  refine operationPath_ne_of_getElem? ?_
  rw [dataDisk_eq_below, String.toList_append, List.getElem?_append_left (by decide)]
  decide

/-- The listing of the disks lies elsewhere than those of a role. -/
theorem disks_ne_dataDisk (service deployment role : String) (lun : UInt8) :
    disks ≠ dataDisk service deployment role lun :=
  ne_of_starts (n := 10) (String.append_empty).symm (dataDisk_eq_below service deployment role lun)
    (by decide) (by decide) (by decide)

end Path

end CloudOrchestration
