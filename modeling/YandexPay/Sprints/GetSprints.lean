import YandexPay.Library.Grouping
import YandexPay.Library.Table
import YandexPay.Library.Traverse
import Mathlib.Data.Int.Notation
import Mathlib.Order.Lattice

/-!
# Listing sprints

`GetSprintsAction` reads the sprints of a period, the stories that have resources in them or are
not done, and the projects of these stories, and joins them in memory. The constraints of the
database are fields, so that a database with a dangling reference cannot be built. A key that is
missing in a dictionary is the error of a join. The columns that are only copied are left out. A set
is a list of its elements, the order of which says nothing.
-/

set_option autoImplicit false
set_option relaxedAutoImplicit false

namespace YandexPay.Sprints

/-! ### The database -/

structure UUID where
  value : BitVec 128
  deriving DecidableEq

/-- An instant, in microseconds. -/
abbrev Datetime : Type := ℤ

structure Project where
  projectId : UUID
  done : Bool
  created : Datetime
  deriving DecidableEq

structure Story where
  storyId : UUID
  projectId : UUID
  done : Bool
  created : Datetime
  deriving DecidableEq

structure Sprint where
  sprintId : UUID
  startsAt : Datetime
  endsAt : Datetime
  deriving DecidableEq

structure SprintGoal where
  sprintGoalId : UUID
  sprintId : UUID
  deriving DecidableEq

structure SprintResource where
  sprintResourceId : UUID
  sprintId : UUID
  deriving DecidableEq

structure SprintStoryResource where
  sprintStoryResourceId : UUID
  sprintId : UUID
  storyId : UUID
  deriving DecidableEq

structure ResourceType where
  resourceTypeId : UUID
  deleted : Bool
  deriving DecidableEq

/-- The tables of one snapshot, with their primary and foreign keys. -/
structure Database where
  projects : Table Project.projectId
  stories : Table Story.storyId
  sprints : Table Sprint.sprintId
  sprintGoals : Table SprintGoal.sprintGoalId
  sprintResources : Table SprintResource.sprintResourceId
  sprintStoryResources : Table SprintStoryResource.sprintStoryResourceId
  resourceTypes : Table ResourceType.resourceTypeId
  story_project : ∀ story ∈ stories, ∃ project ∈ projects, project.projectId = story.projectId
  goal_sprint : ∀ goal ∈ sprintGoals, ∃ sprint ∈ sprints, sprint.sprintId = goal.sprintId
  resource_sprint : ∀ resource ∈ sprintResources, ∃ sprint ∈ sprints,
    sprint.sprintId = resource.sprintId
  storyResource_sprint : ∀ resource ∈ sprintStoryResources, ∃ sprint ∈ sprints,
    sprint.sprintId = resource.sprintId
  storyResource_story : ∀ resource ∈ sprintStoryResources, ∃ story ∈ stories,
    story.storyId = resource.storyId

/-- The queries of the action. -/
inductive Query where
  | sprints
  | sprintStoryResources
  | openProjects
  | openStories
  | missingStories
  | missingProjects
  | resourceTypes
  | sprintGoals
  | sprintResources

/-- The order in which the database returns the rows of a query, which the queries leave open. -/
structure RowOrder where
  arrange : {α : Type} → Query → List α → List α
  perm : ∀ {α : Type} (query : Query) (rows : List α), (arrange query rows).Perm rows

section

variable (db : Database) (order : RowOrder)

def find {α : Type} {key : α → UUID} (query : Query) (table : Table key) (filters : α → Bool) :
    List α :=
  order.arrange query (table.rows.filter filters)

def SprintMapper.findForPeriod (from_ to_ : Datetime) : List Sprint :=
  find order .sprints db.sprints fun sprint ↦ from_ ≤ sprint.startsAt ∧ sprint.startsAt < to_

def SprintStoryResourceMapper.findForSprints (sprintIds : List UUID) : List SprintStoryResource :=
  find order .sprintStoryResources db.sprintStoryResources fun resource ↦
    resource.sprintId ∈ sprintIds

def ProjectMapper.findNotDone (createdAtLt : Datetime) : List Project :=
  find order .openProjects db.projects fun project ↦
    project.created < createdAtLt ∧ project.done = false

def ProjectMapper.findByIds (projectIds : List UUID) : List Project :=
  find order .missingProjects db.projects fun project ↦ project.projectId ∈ projectIds

def StoryMapper.findNotDone (createdAtLt : Datetime) (projectIds : List UUID) : List Story :=
  find order .openStories db.stories fun story ↦
    story.projectId ∈ projectIds ∧ story.created < createdAtLt ∧ story.done = false

def StoryMapper.findByIds (storyIds : List UUID) : List Story :=
  find order .missingStories db.stories fun story ↦ story.storyId ∈ storyIds

def ResourceTypeMapper.findNotDeleted : List ResourceType :=
  find order .resourceTypes db.resourceTypes fun resourceType ↦ resourceType.deleted = false

def SprintGoalMapper.findBySprintIds (sprintIds : List UUID) : List SprintGoal :=
  find order .sprintGoals db.sprintGoals fun goal ↦ goal.sprintId ∈ sprintIds

def SprintResourceMapper.findBySprintIds (sprintIds : List UUID) : List SprintResource :=
  find order .sprintResources db.sprintResources fun resource ↦ resource.sprintId ∈ sprintIds

end

theorem mem_find {order : RowOrder} {α : Type} {key : α → UUID} {query : Query} {t : Table key}
    {filters : α → Bool} {row : α} :
    row ∈ find order query t filters ↔ row ∈ t ∧ filters row = true :=
  (order.perm query _).mem_iff.trans List.mem_filter

theorem nodup_find (order : RowOrder) {α : Type} {key : α → UUID} (query : Query) (t : Table key)
    (filters : α → Bool) : ((find order query t filters).map key).Nodup := by
  apply ((order.perm query _).map key).nodup_iff.mpr
  exact t.nodup.sublist (List.filter_sublist.map key)

theorem mem_findForPeriod {db : Database} {order : RowOrder} {from_ to_ : Datetime}
    {sprint : Sprint} : sprint ∈ SprintMapper.findForPeriod db order from_ to_ ↔
      sprint ∈ db.sprints ∧ from_ ≤ sprint.startsAt ∧ sprint.startsAt < to_ := by
  apply mem_find.trans
  rw [decide_eq_true_iff]

theorem mem_findForSprints {db : Database} {order : RowOrder} {sprintIds : List UUID}
    {resource : SprintStoryResource} :
    resource ∈ SprintStoryResourceMapper.findForSprints db order sprintIds ↔
      resource ∈ db.sprintStoryResources ∧ resource.sprintId ∈ sprintIds := by
  apply mem_find.trans
  rw [decide_eq_true_iff]

/-! ### The action -/

structure GetSprintsRequest where
  from_ : Datetime
  to_ : Datetime

structure ListedStory extends Story where
  sprintIds : List UUID
  deriving DecidableEq

structure ListedProject extends Project where
  stories : List ListedStory
  deriving DecidableEq

structure ListedSprint extends Sprint where
  goals : List SprintGoal
  resources : List SprintResource
  deriving DecidableEq

structure GetSprintsResponse where
  sprints : List ListedSprint
  projects : List ListedProject
  sprintStoryResources : List SprintStoryResource
  resourceTypes : List ResourceType
  deriving DecidableEq

namespace GetSprintsAction

section

variable (db : Database) (order : RowOrder)

def findMissingStories (alreadyFoundStories : Dict UUID Story)
    (sprintStoryResources : List SprintStoryResource) : List Story :=
  StoryMapper.findByIds db order
    (alreadyFoundStories.missingKeys SprintStoryResource.storyId sprintStoryResources)

/-- The additions of the nested loop over the stories and the sprints. -/
def overlaps (sprints : Dict UUID Sprint) (stories : Dict UUID Story) : List (UUID × UUID) :=
  (stories.values.filter fun story ↦ !story.done).flatMap fun story ↦
    (sprints.values.filter fun sprint ↦ sprint.endsAt > story.created).map fun sprint ↦
      (story.storyId, sprint.sprintId)

/-- The sprint ids are set last, in the objects that the lists of the projects hold. -/
def findProjectsForSprints (sprints : Dict UUID Sprint)
    (sprintStoryResources : List SprintStoryResource) (maxSprintTime : Datetime) :
    Except UUID (List ListedProject) := do
  let projectsList := ProjectMapper.findNotDone db order maxSprintTime
  let storiesList := StoryMapper.findNotDone db order maxSprintTime
    (projectsList.map Project.projectId)
  let openProjects := Dict.index Project.projectId projectsList
  let openStories := Dict.index Story.storyId storiesList
  let missingDoneStories := findMissingStories db order openStories sprintStoryResources
  let stories := missingDoneStories.foldl (fun d story ↦ d.set story.storyId story) openStories
  let missingDoneProjects := ProjectMapper.findByIds db order
    (openProjects.missingKeys Story.projectId missingDoneStories)
  let projects := missingDoneProjects.foldl (fun d project ↦ d.set project.projectId project)
    openProjects
  let joined ← (projects.mapValues fun _ project ↦ (project, [])).modifyAll
    (fun p story ↦ (p.1, p.2 ++ [story])) Story.projectId stories.values
  let storySprintIds ← (stories.mapValues fun _ _ ↦ []).modifyAll
    (fun ids p ↦ ids.insert p.2) Prod.fst (overlaps sprints stories)
  let storySprintIds ← storySprintIds.modifyAll
    (fun ids resource ↦ ids.insert resource.sprintId) SprintStoryResource.storyId
    sprintStoryResources
  joined.values.mapM fun p ↦ do
    let stories ← p.2.mapM fun story ↦ do
      let sprintIds ← storySprintIds.item story.storyId
      return { toStory := story, sprintIds }
    return { toProject := p.1, stories }

def joinGoalsToSprints (sprints : Dict UUID ListedSprint) (sprintIds : List UUID) :
    Except UUID (Dict UUID ListedSprint) :=
  sprints.modifyAll (fun sprint goal ↦ { sprint with goals := sprint.goals ++ [goal] })
    SprintGoal.sprintId (SprintGoalMapper.findBySprintIds db order sprintIds)

def joinResourcesToSprints (sprints : Dict UUID ListedSprint) (sprintIds : List UUID) :
    Except UUID (Dict UUID ListedSprint) :=
  sprints.modifyAll
    (fun sprint resource ↦ { sprint with resources := sprint.resources ++ [resource] })
    SprintResource.sprintId (SprintResourceMapper.findBySprintIds db order sprintIds)

/-- Without a sprint in the period the answer is the empty list, here `none`. -/
def handle (request : GetSprintsRequest) : Except UUID (Option GetSprintsResponse) :=
  match SprintMapper.findForPeriod db order request.from_ request.to_ with
  | [] => return none
  | first :: others => do
    let sprintsList := first :: others
    let sprints := Dict.index Sprint.sprintId sprintsList
    let sprintIds := sprintsList.map Sprint.sprintId
    let maxSprintTime := others.foldl (fun t sprint ↦ max t sprint.endsAt) first.endsAt
    let sprintStoryResources := SprintStoryResourceMapper.findForSprints db order sprintIds
    let projects ← findProjectsForSprints db order sprints sprintStoryResources maxSprintTime
    let resourceTypes := ResourceTypeMapper.findNotDeleted db order
    let listed := sprints.mapValues fun _ sprint ↦
      { toSprint := sprint, goals := [], resources := [] : ListedSprint }
    let listed ← joinGoalsToSprints db order listed sprintIds
    let listed ← joinResourcesToSprints db order listed sprintIds
    return some { sprints := listed.values, projects, sprintStoryResources, resourceTypes }

end

/-! ### The records that are found -/

section

variable (db : Database) (order : RowOrder) (resources : List SprintStoryResource) (t : Datetime)

def openProjects : List Project := ProjectMapper.findNotDone db order t

def openStories : List Story :=
  StoryMapper.findNotDone db order t ((openProjects db order t).map Project.projectId)

def missingStories : List Story :=
  findMissingStories db order (Dict.index Story.storyId (openStories db order t)) resources

def missingProjects : List Project :=
  ProjectMapper.findByIds db order
    ((Dict.index Project.projectId (openProjects db order t)).missingKeys Story.projectId
      (missingStories db order resources t))

def foundStories : List Story := openStories db order t ++ missingStories db order resources t

def foundProjects : List Project := openProjects db order t ++ missingProjects db order resources t

end

variable {db : Database} {order : RowOrder} {resources : List SprintStoryResource} {t : Datetime}

/-- Records that are read because their keys are missing have other keys. -/
theorem nodup_append_of_missing {α : Type} {key : α → UUID} {l l' : List α}
    (hl : (l.map key).Nodup) (hl' : (l'.map key).Nodup)
    (hmissing : ∀ a ∈ l', key a ∉ (Dict.index key l).keys) : ((l ++ l').map key).Nodup := by
  rw [List.map_append, List.nodup_append]
  refine ⟨hl, hl', ?_⟩
  rintro k hk _ hk' rfl
  obtain ⟨a, ha, rfl⟩ := List.mem_map.mp hk'
  exact hmissing a ha (Dict.keys_index hl ▸ hk)

theorem mem_missingStories {story : Story} : story ∈ missingStories db order resources t ↔
    story ∈ db.stories ∧ story.storyId ∉ (Dict.index Story.storyId (openStories db order t)).keys ∧
      ∃ resource ∈ resources, resource.storyId = story.storyId := by
  apply mem_find.trans
  rw [decide_eq_true_iff, Dict.mem_missingKeys]

theorem mem_missingProjects {project : Project} :
    project ∈ missingProjects db order resources t ↔ project ∈ db.projects ∧
      project.projectId ∉ (Dict.index Project.projectId (openProjects db order t)).keys ∧
        ∃ story ∈ missingStories db order resources t, story.projectId = project.projectId := by
  apply mem_find.trans
  rw [decide_eq_true_iff, Dict.mem_missingKeys]

theorem nodup_openStories : ((openStories db order t).map Story.storyId).Nodup :=
  nodup_find order .openStories db.stories _

theorem nodup_openProjects : ((openProjects db order t).map Project.projectId).Nodup :=
  nodup_find order .openProjects db.projects _

theorem nodup_foundStories : ((foundStories db order resources t).map Story.storyId).Nodup :=
  nodup_append_of_missing nodup_openStories (nodup_find order .missingStories db.stories _)
    fun _ hstory ↦ (mem_missingStories.mp hstory).2.1

theorem nodup_foundProjects :
    ((foundProjects db order resources t).map Project.projectId).Nodup :=
  nodup_append_of_missing nodup_openProjects (nodup_find order .missingProjects db.projects _)
    fun _ hproject ↦ (mem_missingProjects.mp hproject).2.1

theorem mem_stories_of_mem_found {story : Story} (h : story ∈ foundStories db order resources t) :
    story ∈ db.stories := by
  rcases List.mem_append.mp h with h | h
  · exact (mem_find.mp h).1
  · exact (mem_missingStories.mp h).1

theorem mem_projects_of_mem_found {project : Project}
    (h : project ∈ foundProjects db order resources t) : project ∈ db.projects := by
  rcases List.mem_append.mp h with h | h
  · exact (mem_find.mp h).1
  · exact (mem_missingProjects.mp h).1

/-- The first wave of missing records: every story with a resource is found. -/
theorem mem_foundStories_of_resource {story : Story} (hstory : story ∈ db.stories)
    {resource : SprintStoryResource} (hresource : resource ∈ resources)
    (hid : resource.storyId = story.storyId) : story ∈ foundStories db order resources t := by
  by_cases hopen : story.storyId ∈ (Dict.index Story.storyId (openStories db order t)).keys
  · rw [Dict.keys_index nodup_openStories] at hopen
    obtain ⟨found, hfound, hfoundId⟩ := List.mem_map.mp hopen
    rw [Table.eq_of_key_eq hstory (mem_find.mp hfound).1 hfoundId.symm]
    exact List.mem_append_left _ hfound
  · exact List.mem_append_right _
      (mem_missingStories.mpr ⟨hstory, hopen, resource, hresource, hid⟩)

/-- The second wave: the project of every story that is found is found. -/
theorem exists_foundProject {story : Story} (h : story ∈ foundStories db order resources t) :
    ∃ project ∈ foundProjects db order resources t, project.projectId = story.projectId := by
  by_cases hopen : story.projectId ∈ (openProjects db order t).map Project.projectId
  · obtain ⟨project, hproject, hid⟩ := List.mem_map.mp hopen
    exact ⟨project, List.mem_append_left _ hproject, hid⟩
  · rcases List.mem_append.mp h with hstory | hstory
    · have hfilters := of_decide_eq_true (mem_find.mp hstory).2
      exact absurd hfilters.1 hopen
    · obtain ⟨project, hproject, hid⟩ := db.story_project story (mem_stories_of_mem_found h)
      refine ⟨project, List.mem_append_right _ (mem_missingProjects.mpr ⟨hproject, ?_, ?_⟩), hid⟩
      · rw [Dict.keys_index nodup_openProjects, hid]
        exact hopen
      · exact ⟨story, hstory, hid.symm⟩

/-! ### The join -/

/-- The dictionary `story_sprint_ids` after both loops. -/
def storySprintIds (sprints : Dict UUID Sprint) (stories : Dict UUID Story)
    (resources : List SprintStoryResource) : Dict UUID (List UUID) :=
  stories.mapValues fun storyId _ ↦
    (resources.filter fun resource ↦ resource.storyId = storyId).foldl
      (fun ids resource ↦ ids.insert resource.sprintId)
      (((overlaps sprints stories).filter fun p ↦ p.1 = storyId).foldl
        (fun ids p ↦ ids.insert p.2) [])

/-- The sprint ids of a story. -/
def sprintIdsOf (sprints : Dict UUID Sprint) (stories : Dict UUID Story)
    (resources : List SprintStoryResource) (story : Story) : List UUID :=
  (resources.filter fun resource ↦ resource.storyId = story.storyId).foldl
    (fun ids resource ↦ ids.insert resource.sprintId)
    (((overlaps sprints stories).filter fun p ↦ p.1 = story.storyId).foldl
      (fun ids p ↦ ids.insert p.2) [])

def listedProjects (db : Database) (order : RowOrder) (resources : List SprintStoryResource)
    (t : Datetime) (sprints : Dict UUID Sprint) : List ListedProject :=
  (foundProjects db order resources t).map fun project ↦
    { toProject := project
      stories := ((foundStories db order resources t).filter fun story ↦
        story.projectId = project.projectId).map fun story ↦
          { toStory := story
            sprintIds := sprintIdsOf sprints
              (Dict.index Story.storyId (foundStories db order resources t)) resources story } }

theorem foldl_append_stories (project : Project) (l joined : List Story) :
    l.foldl (fun p story ↦ (p.1, p.2 ++ [story])) (project, joined) = (project, joined ++ l) := by
  induction l generalizing joined with
  | nil => rw [List.append_nil, List.foldl_nil]
  | cons story l ih => rw [List.foldl_cons, ih, List.append_assoc, List.singleton_append]

theorem projectId_mem_keys {story : Story} (h : story ∈ foundStories db order resources t) :
    story.projectId ∈
      (Dict.index Project.projectId (foundProjects db order resources t)).keys := by
  obtain ⟨project, hproject, hid⟩ := exists_foundProject h
  rw [Dict.keys_index nodup_foundProjects, ← hid]
  exact List.mem_map_of_mem hproject

theorem mem_overlaps {sprints : Dict UUID Sprint} {p : UUID × UUID} :
    p ∈ overlaps sprints (Dict.index Story.storyId (foundStories db order resources t)) ↔
      ∃ story ∈ foundStories db order resources t, story.done = false ∧ story.storyId = p.1 ∧
        ∃ sprint ∈ sprints.values, story.created < sprint.endsAt ∧ sprint.sprintId = p.2 := by
  rw [overlaps, Dict.values_index nodup_foundStories]
  simp only [List.mem_flatMap, List.mem_filter, List.mem_map, Prod.ext_iff, Bool.not_eq_true',
    decide_eq_true_iff]
  constructor
  · rintro ⟨story, ⟨hstory, hdone⟩, sprint, ⟨hsprint, hends⟩, hstoryId, hsprintId⟩
    exact ⟨story, hstory, hdone, hstoryId, sprint, hsprint, hends, hsprintId⟩
  · rintro ⟨story, hstory, hdone, hstoryId, sprint, hsprint, hends, hsprintId⟩
    exact ⟨story, ⟨hstory, hdone⟩, sprint, ⟨hsprint, hends⟩, hstoryId, hsprintId⟩

theorem mem_keys_of_mem_overlaps {sprints : Dict UUID Sprint} {p : UUID × UUID}
    (h : p ∈ overlaps sprints (Dict.index Story.storyId (foundStories db order resources t))) :
    p.1 ∈ (Dict.index Story.storyId (foundStories db order resources t)).keys := by
  obtain ⟨story, hstory, -, hid, -⟩ := mem_overlaps.mp h
  rw [Dict.keys_index nodup_foundStories, ← hid]
  exact List.mem_map_of_mem hstory

theorem storyId_mem_keys {resource : SprintStoryResource}
    (hresource : resource ∈ db.sprintStoryResources) (h : resource ∈ resources) :
    resource.storyId ∈ (Dict.index Story.storyId (foundStories db order resources t)).keys := by
  obtain ⟨story, hstory, hid⟩ := db.storyResource_story resource hresource
  rw [Dict.keys_index nodup_foundStories, ← hid]
  exact List.mem_map_of_mem (mem_foundStories_of_resource hstory h hid.symm)

theorem item_storySprintIds {sprints : Dict UUID Sprint} {story : Story}
    (h : story ∈ foundStories db order resources t) :
    (storySprintIds sprints (Dict.index Story.storyId (foundStories db order resources t))
      resources).item story.storyId =
        .ok (sprintIdsOf sprints
          (Dict.index Story.storyId (foundStories db order resources t)) resources story) := by
  refine Dict.item_eq_ok ?_
  rw [storySprintIds, Dict.get?_mapValues, Dict.get?_index nodup_foundStories h]
  rfl

theorem findProjectsForSprints_eq (sprints : Dict UUID Sprint)
    (hresources : ∀ resource ∈ resources, resource ∈ db.sprintStoryResources) :
    findProjectsForSprints db order sprints resources t =
      .ok (listedProjects db order resources t sprints) := by
  have hopenProjects : ProjectMapper.findNotDone db order t = openProjects db order t := rfl
  have hopenStories : StoryMapper.findNotDone db order t
      ((openProjects db order t).map Project.projectId) = openStories db order t := rfl
  have hmissingStories : findMissingStories db order
      (Dict.index Story.storyId (openStories db order t)) resources =
        missingStories db order resources t := rfl
  have hmissingProjects : ProjectMapper.findByIds db order
      ((Dict.index Project.projectId (openProjects db order t)).missingKeys Story.projectId
        (missingStories db order resources t)) = missingProjects db order resources t := rfl
  have hstories : ∀ story ∈ foundStories db order resources t, story.projectId ∈
      ((Dict.index Project.projectId (foundProjects db order resources t)).mapValues
        fun _ project ↦ (project, ([] : List Story))).keys := fun story hstory ↦ by
    rw [Dict.keys_mapValues]
    exact projectId_mem_keys hstory
  have hoverlaps : ∀ p ∈ overlaps sprints
      (Dict.index Story.storyId (foundStories db order resources t)), p.1 ∈
        ((Dict.index Story.storyId (foundStories db order resources t)).mapValues
          fun _ _ ↦ ([] : List UUID)).keys := fun p hp ↦ by
    rw [Dict.keys_mapValues]
    exact mem_keys_of_mem_overlaps hp
  have hread : ∀ resource ∈ resources, resource.storyId ∈
      (((Dict.index Story.storyId (foundStories db order resources t)).mapValues
        fun _ _ ↦ ([] : List UUID)).mapValues fun k v ↦
          ((overlaps sprints (Dict.index Story.storyId (foundStories db order resources t))).filter
            fun p ↦ p.1 = k).foldl (fun ids p ↦ ids.insert p.2) v).keys := fun resource h ↦ by
    rw [Dict.keys_mapValues, Dict.keys_mapValues]
    exact storyId_mem_keys (hresources resource h) h
  simp only [findProjectsForSprints, hopenStories, hopenProjects, hmissingStories,
    hmissingProjects, Dict.foldl_set_index]
  rw [← foundStories, ← foundProjects, Dict.values_index nodup_foundStories,
    Dict.modifyAll_eq_ok hstories, ok_bind, Dict.modifyAll_eq_ok hoverlaps, ok_bind,
    Dict.modifyAll_eq_ok hread, ok_bind]
  simp only [Dict.mapValues_mapValues, foldl_append_stories, List.nil_append]
  rw [Dict.values_mapValues_index nodup_foundProjects, mapM_eq_ok_iff, listedProjects,
    List.forall₂_map_left_iff, List.forall₂_map_right_iff, List.forall₂_same]
  intro project _
  have hlisted : ((foundStories db order resources t).filter fun story ↦
      story.projectId = project.projectId).mapM (fun story ↦ do
        let sprintIds ← (storySprintIds sprints
          (Dict.index Story.storyId (foundStories db order resources t)) resources).item
            story.storyId
        return ({ toStory := story, sprintIds } : ListedStory)) = .ok _ :=
    mapM_eq_ok fun story hstory ↦ by
      rw [item_storySprintIds (List.mem_of_mem_filter hstory)]
      rfl
  exact congrArg (· >>= _) hlisted

theorem nodup_sprintIdsOf (sprints : Dict UUID Sprint) (stories : Dict UUID Story)
    (resources : List SprintStoryResource) (story : Story) :
    (sprintIdsOf sprints stories resources story).Nodup :=
  Dict.nodup_foldl_insert _ _ (Dict.nodup_foldl_insert _ _ List.nodup_nil)

theorem mem_sprintIdsOf {sprints : Dict UUID Sprint} {story : Story}
    (h : story ∈ foundStories db order resources t) {id : UUID} :
    id ∈ sprintIdsOf sprints (Dict.index Story.storyId (foundStories db order resources t))
        resources story ↔
      (story.done = false ∧
        ∃ sprint ∈ sprints.values, story.created < sprint.endsAt ∧ sprint.sprintId = id) ∨
      ∃ resource ∈ resources, resource.storyId = story.storyId ∧ resource.sprintId = id := by
  rw [sprintIdsOf, Dict.mem_foldl_insert, Dict.mem_foldl_insert]
  simp only [List.not_mem_nil, false_or, List.mem_filter, decide_eq_true_iff, and_assoc]
  refine or_congr ?_ Iff.rfl
  constructor
  · rintro ⟨p, hp, hstoryId, rfl⟩
    obtain ⟨other, hother, hdone, hid, hsprint⟩ := mem_overlaps.mp hp
    obtain rfl : other = story :=
      List.inj_on_of_nodup_map nodup_foundStories hother h (hid.trans hstoryId)
    exact ⟨hdone, hsprint⟩
  · rintro ⟨hdone, hsprint⟩
    exact ⟨(story.storyId, id), mem_overlaps.mpr ⟨story, h, hdone, rfl, hsprint⟩, rfl, rfl⟩

theorem joinGoalsToSprints_eq (sprints : Dict UUID ListedSprint) {sprintIds : List UUID}
    (h : sprintIds = sprints.keys) :
    joinGoalsToSprints db order sprints sprintIds = .ok (sprints.mapValues fun sprintId sprint ↦
      ((SprintGoalMapper.findBySprintIds db order sprintIds).filter fun goal ↦
        goal.sprintId = sprintId).foldl
          (fun sprint goal ↦ { sprint with goals := sprint.goals ++ [goal] }) sprint) :=
  Dict.modifyAll_eq_ok fun _ hgoal ↦ h ▸ of_decide_eq_true (mem_find.mp hgoal).2

theorem joinResourcesToSprints_eq (sprints : Dict UUID ListedSprint) {sprintIds : List UUID}
    (h : sprintIds = sprints.keys) :
    joinResourcesToSprints db order sprints sprintIds =
      .ok (sprints.mapValues fun sprintId sprint ↦
        ((SprintResourceMapper.findBySprintIds db order sprintIds).filter fun resource ↦
          resource.sprintId = sprintId).foldl
            (fun sprint resource ↦ { sprint with resources := sprint.resources ++ [resource] })
            sprint) :=
  Dict.modifyAll_eq_ok fun _ hresource ↦ h ▸ of_decide_eq_true (mem_find.mp hresource).2

/-! ### The response -/

/-- A response in which the records of the database are joined completely. -/
structure Joined (db : Database) (request : GetSprintsRequest) (response : GetSprintsResponse) :
    Prop where
  /-- The sprints are those that start in the period. -/
  sprints : ∀ sprint, (∃ listed ∈ response.sprints, listed.toSprint = sprint) ↔
    sprint ∈ db.sprints ∧ request.from_ ≤ sprint.startsAt ∧ sprint.startsAt < request.to_
  projects : ∀ project ∈ response.projects, project.toProject ∈ db.projects
  stories : ∀ project ∈ response.projects, ∀ story ∈ project.stories, story.toStory ∈ db.stories
  /-- A story is listed under its own project. -/
  own : ∀ project ∈ response.projects, ∀ story ∈ project.stories,
    story.projectId = project.projectId
  /-- No project is listed twice. -/
  projects_nodup : (response.projects.map fun project ↦ project.projectId).Nodup
  /-- No story is listed twice, under one project or under two. -/
  stories_nodup : ((response.projects.flatMap fun project ↦ project.stories).map
    fun story ↦ story.storyId).Nodup
  /-- A story that has a resource in a sprint is listed. -/
  complete : ∀ story ∈ db.stories, ∀ resource ∈ db.sprintStoryResources,
    resource.storyId = story.storyId →
    (∃ sprint ∈ response.sprints, sprint.sprintId = resource.sprintId) →
    ∃ project ∈ response.projects, ∃ listed ∈ project.stories, listed.toStory = story
  /-- The sprints of a story are those in which it has a resource and, if it is not done, those
  that end after its creation. -/
  sprintIds : ∀ project ∈ response.projects, ∀ story ∈ project.stories, story.sprintIds.Nodup ∧
    ∀ id, id ∈ story.sprintIds ↔ ∃ sprint ∈ response.sprints, sprint.sprintId = id ∧
      ((∃ resource ∈ db.sprintStoryResources, resource.storyId = story.storyId ∧
        resource.sprintId = id) ∨ story.done = false ∧ story.created < sprint.endsAt)

theorem mem_listedProjects {sprints : Dict UUID Sprint} {project : ListedProject}
    (h : project ∈ listedProjects db order resources t sprints) :
    project.toProject ∈ foundProjects db order resources t ∧ ∀ story ∈ project.stories,
      story.toStory ∈ foundStories db order resources t ∧
        story.projectId = project.projectId ∧
        story.sprintIds = sprintIdsOf sprints
          (Dict.index Story.storyId (foundStories db order resources t)) resources
          story.toStory := by
  obtain ⟨found, hfound, rfl⟩ := List.mem_map.mp h
  refine ⟨hfound, fun story hstory ↦ ?_⟩
  obtain ⟨row, hrow, rfl⟩ := List.mem_map.mp hstory
  obtain ⟨hrow, hid⟩ := List.mem_filter.mp hrow
  exact ⟨hrow, of_decide_eq_true hid, rfl⟩

theorem exists_listed {sprints : Dict UUID Sprint} {story : Story}
    (h : story ∈ foundStories db order resources t) :
    ∃ project ∈ listedProjects db order resources t sprints, ∃ listed ∈ project.stories,
      listed.toStory = story := by
  obtain ⟨project, hproject, hid⟩ := exists_foundProject h
  refine ⟨_, List.mem_map_of_mem hproject, _, List.mem_map_of_mem ?_, rfl⟩
  exact List.mem_filter.mpr ⟨h, decide_eq_true hid.symm⟩

/-- The lists of two projects share no story. -/
theorem nodup_stories_listedProjects (sprints : Dict UUID Sprint) :
    (((listedProjects db order resources t sprints).flatMap fun project ↦ project.stories).map
      fun story ↦ story.storyId).Nodup := by
  rw [listedProjects, List.flatMap_map, List.map_flatMap, List.nodup_flatMap]
  simp only [List.map_map, Function.comp_def]
  refine ⟨fun project _ ↦ ?_, ?_⟩
  · exact nodup_foundStories.sublist (List.filter_sublist.map Story.storyId)
  · have hdistinct : (foundProjects db order resources t).Pairwise fun p q ↦
        p.projectId ≠ q.projectId := List.pairwise_map.mp nodup_foundProjects
    refine hdistinct.imp fun {p q} hne ↦ List.disjoint_left.mpr fun id hp hq ↦ hne ?_
    obtain ⟨first, hfirst, rfl⟩ := List.mem_map.mp hp
    obtain ⟨second, hsecond, hid⟩ := List.mem_map.mp hq
    obtain ⟨hfirst, hfirstId⟩ := List.mem_filter.mp hfirst
    obtain ⟨hsecond, hsecondId⟩ := List.mem_filter.mp hsecond
    obtain rfl : second = first :=
      List.inj_on_of_nodup_map nodup_foundStories hsecond hfirst hid
    exact (of_decide_eq_true hfirstId).symm.trans (of_decide_eq_true hsecondId)

theorem foldl_toSprint {β : Type} {op : ListedSprint → β → ListedSprint}
    (hop : ∀ sprint b, (op sprint b).toSprint = sprint.toSprint) (l : List β)
    (sprint : ListedSprint) : (l.foldl op sprint).toSprint = sprint.toSprint := by
  induction l generalizing sprint with
  | nil => rfl
  | cons b l ih => exact (ih _).trans (hop sprint b)

/-- What `handle` answers: the projects are those of the closed form, for some instant. -/
theorem handle_eq_ok {request : GetSprintsRequest} {sprintsList : List Sprint}
    (hsprints : SprintMapper.findForPeriod db order request.from_ request.to_ = sprintsList)
    (hne : sprintsList ≠ []) :
    ∃ response : GetSprintsResponse, handle db order request = .ok (some response) ∧
      response.sprints.map ListedSprint.toSprint = sprintsList ∧
      ∃ t, response.projects = listedProjects db order
        (SprintStoryResourceMapper.findForSprints db order (sprintsList.map Sprint.sprintId)) t
        (Dict.index Sprint.sprintId sprintsList) := by
  have hnodup : (sprintsList.map Sprint.sprintId).Nodup := hsprints ▸ nodup_find order _ _ _
  obtain ⟨first, others, rfl⟩ := List.exists_cons_of_ne_nil hne
  have hresources : ∀ resource ∈ SprintStoryResourceMapper.findForSprints db order
      ((first :: others).map Sprint.sprintId), resource ∈ db.sprintStoryResources :=
    fun resource hresource ↦ (mem_findForSprints.mp hresource).1
  have hkeys := Dict.keys_index hnodup
  rw [handle, hsprints]
  simp only [findProjectsForSprints_eq _ hresources, ok_bind]
  rw [joinGoalsToSprints_eq _ (by rw [Dict.keys_mapValues, hkeys]), ok_bind,
    joinResourcesToSprints_eq _ (by rw [Dict.keys_mapValues, Dict.keys_mapValues, hkeys]), ok_bind]
  refine ⟨_, rfl, ?_, _, rfl⟩
  simp only [Dict.mapValues_mapValues]
  rw [Dict.values_mapValues_index hnodup, List.map_map]
  refine (List.map_congr_left fun sprint _ ↦ ?_).trans (List.map_id _)
  rw [Function.comp_apply, foldl_toSprint, foldl_toSprint]
  · rfl
  · exact fun _ _ ↦ rfl
  · exact fun _ _ ↦ rfl

/-- The sprint ids of a story that is found, in terms of the database. -/
theorem mem_sprintIdsOf_findForSprints {sprintsList : List Sprint}
    (hnodup : (sprintsList.map Sprint.sprintId).Nodup) {story : Story}
    (hresources : resources =
      SprintStoryResourceMapper.findForSprints db order (sprintsList.map Sprint.sprintId))
    (h : story ∈ foundStories db order resources t) {id : UUID} :
    id ∈ sprintIdsOf (Dict.index Sprint.sprintId sprintsList)
        (Dict.index Story.storyId (foundStories db order resources t)) resources story ↔
      ∃ sprint ∈ sprintsList, sprint.sprintId = id ∧
        ((∃ resource ∈ db.sprintStoryResources, resource.storyId = story.storyId ∧
          resource.sprintId = id) ∨ story.done = false ∧ story.created < sprint.endsAt) := by
  rw [mem_sprintIdsOf h, Dict.values_index hnodup]
  constructor
  · rintro (⟨hdone, sprint, hsprint, hends, rfl⟩ | ⟨resource, hread, hid, rfl⟩)
    · exact ⟨sprint, hsprint, rfl, Or.inr ⟨hdone, hends⟩⟩
    · rw [hresources] at hread
      obtain ⟨hrow, hsprintId⟩ := mem_findForSprints.mp hread
      obtain ⟨sprint, hsprint, heq⟩ := List.mem_map.mp hsprintId
      exact ⟨sprint, hsprint, heq, Or.inl ⟨resource, hrow, hid, rfl⟩⟩
  · rintro ⟨sprint, hsprint, rfl, ⟨resource, hrow, hid, heq⟩ | ⟨hdone, hends⟩⟩
    · have hsprintId : resource.sprintId ∈ sprintsList.map Sprint.sprintId :=
        heq ▸ List.mem_map_of_mem hsprint
      have hread := hresources ▸ mem_findForSprints.mpr ⟨hrow, hsprintId⟩
      exact Or.inr ⟨resource, hread, hid, heq⟩
    · exact Or.inl ⟨hdone, sprint, hsprint, hends, rfl⟩

theorem joined_of_projects {request : GetSprintsRequest} {response : GetSprintsResponse}
    {sprintsList : List Sprint}
    (hfound : SprintMapper.findForPeriod db order request.from_ request.to_ = sprintsList)
    (hsprints : response.sprints.map ListedSprint.toSprint = sprintsList)
    (hprojects : response.projects = listedProjects db order
      (SprintStoryResourceMapper.findForSprints db order (sprintsList.map Sprint.sprintId)) t
      (Dict.index Sprint.sprintId sprintsList)) : Joined db request response := by
  have hnodup : (sprintsList.map Sprint.sprintId).Nodup := hfound ▸ nodup_find order _ _ _
  have hlisted : ∀ sprint, sprint ∈ sprintsList ↔
      ∃ listed ∈ response.sprints, listed.toSprint = sprint := by
    intro sprint
    rw [← hsprints, List.mem_map]
  constructor
  case sprints =>
    intro sprint
    rw [← hlisted, ← hfound, mem_findForPeriod]
  case projects =>
    intro project hproject
    rw [hprojects] at hproject
    exact mem_projects_of_mem_found (mem_listedProjects hproject).1
  case stories =>
    intro project hproject story hstory
    rw [hprojects] at hproject
    exact mem_stories_of_mem_found ((mem_listedProjects hproject).2 story hstory).1
  case own =>
    intro project hproject story hstory
    rw [hprojects] at hproject
    exact ((mem_listedProjects hproject).2 story hstory).2.1
  case projects_nodup =>
    rw [hprojects, listedProjects, List.map_map]
    exact nodup_foundProjects
  case stories_nodup =>
    rw [hprojects]
    exact nodup_stories_listedProjects _
  case complete =>
    rintro story hstory resource hrow hid ⟨sprint, hsprint, heq⟩
    have hsprintId : resource.sprintId ∈ sprintsList.map Sprint.sprintId :=
      heq ▸ List.mem_map_of_mem ((hlisted _).mpr ⟨sprint, hsprint, rfl⟩)
    rw [hprojects]
    exact exists_listed (mem_foundStories_of_resource hstory
      (mem_findForSprints.mpr ⟨hrow, hsprintId⟩) hid)
  case sprintIds =>
    intro project hproject story hstory
    rw [hprojects] at hproject
    obtain ⟨hrow, -, hids⟩ := (mem_listedProjects hproject).2 story hstory
    rw [hids]
    refine ⟨nodup_sprintIdsOf _ _ _ _, fun id ↦ ?_⟩
    rw [mem_sprintIdsOf_findForSprints hnodup rfl hrow]
    simp only [hlisted, exists_exists_and_eq_and]

/-- Over every state of the database the listing of sprints finds all keys of its joins, and it
joins the records completely. -/
theorem getSprints_joins (db : Database) (order : RowOrder) (request : GetSprintsRequest) :
    ∃ answer, handle db order request = .ok answer ∧
      (answer = none ↔ ∀ sprint ∈ db.sprints,
        ¬ (request.from_ ≤ sprint.startsAt ∧ sprint.startsAt < request.to_)) ∧
      ∀ response ∈ answer, Joined db request response := by
  by_cases hne : SprintMapper.findForPeriod db order request.from_ request.to_ = []
  · refine ⟨none, by rw [handle, hne]; rfl, ?_, fun _ h ↦ by cases h⟩
    refine iff_of_true rfl fun sprint hsprint hperiod ↦ ?_
    have hmem : sprint ∈ SprintMapper.findForPeriod db order request.from_ request.to_ :=
      mem_findForPeriod.mpr ⟨hsprint, hperiod⟩
    rw [hne] at hmem
    cases hmem
  · obtain ⟨response, hanswer, hsprints, t, hprojects⟩ := handle_eq_ok rfl hne
    refine ⟨some response, hanswer, iff_of_false (by simp) fun hnone ↦ ?_, ?_⟩
    · obtain ⟨sprint, hsprint⟩ := List.exists_mem_of_ne_nil _ hne
      obtain ⟨hrow, hperiod⟩ := mem_findForPeriod.mp hsprint
      exact hnone sprint hrow hperiod
    · intro response' h
      obtain rfl := Option.some.inj h
      exact joined_of_projects rfl hsprints hprojects

def sampleDatabase : Database where
  projects := ⟨[⟨⟨1⟩, true, 0⟩], by decide⟩
  stories := ⟨[⟨⟨11⟩, ⟨1⟩, true, 30⟩, ⟨⟨12⟩, ⟨1⟩, false, 5⟩], by decide⟩
  sprints := ⟨[⟨⟨21⟩, 10, 20⟩, ⟨⟨22⟩, 20, 30⟩], by decide⟩
  sprintGoals := ⟨[⟨⟨31⟩, ⟨21⟩⟩], by decide⟩
  sprintResources := Table.empty
  sprintStoryResources := ⟨[⟨⟨51⟩, ⟨21⟩, ⟨11⟩⟩, ⟨⟨52⟩, ⟨22⟩, ⟨12⟩⟩], by decide⟩
  resourceTypes := ⟨[⟨⟨61⟩, true⟩], by decide⟩
  story_project := by decide
  goal_sprint := by decide
  resource_sprint := by decide
  storyResource_sprint := by decide
  storyResource_story := by decide

/-- A done story of a done project is listed for its resource, and a story that is not done for
the sprint that ends after its creation too. -/
example : handle sampleDatabase ⟨fun _ rows ↦ rows, fun _ rows ↦ List.Perm.refl rows⟩ ⟨0, 100⟩ =
    .ok (some {
      sprints := [⟨⟨⟨21⟩, 10, 20⟩, [⟨⟨31⟩, ⟨21⟩⟩], []⟩, ⟨⟨⟨22⟩, 20, 30⟩, [], []⟩]
      projects := [⟨⟨⟨1⟩, true, 0⟩, [⟨⟨⟨11⟩, ⟨1⟩, true, 30⟩, [⟨21⟩]⟩,
        ⟨⟨⟨12⟩, ⟨1⟩, false, 5⟩, [⟨22⟩, ⟨21⟩]⟩]⟩]
      sprintStoryResources := [⟨⟨51⟩, ⟨21⟩, ⟨11⟩⟩, ⟨⟨52⟩, ⟨22⟩, ⟨12⟩⟩]
      resourceTypes := [] }) := by
  rfl

end GetSprintsAction

end YandexPay.Sprints
